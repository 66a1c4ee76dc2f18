import CellWeave.Proofs.Stale
/-!
# Operations in place

The operations of a session as programs that write to it piece by piece: the cells of a notebook,
then its version, then the board. What was written, logged or sent stays when an error comes later.
The programs come to what the operations of the session come to, since every error comes before the
first write. So an operation that fails leaves no trace.
-/

namespace CellWeave

@[simp] theorem Table.set_set {α : Type} (table : Table α) (name : String) (first second : α) :
    Table.set (Table.set table name first) name second = Table.set table name second := by
  induction table with
  | nil => simp [Table.set]
  | cons entry rest ih =>
    by_cases h : entry.1 = name
    · simp [Table.set, h]
    · simp [Table.set, h, ih]

/-- Of two notebooks put under one uri the later stays. -/
theorem Session.put_put (session : Session) {first second : Notebook}
    (h : first.uri = second.uri) : (session.put first).put second = session.put second := by
  simp [put, Workspace.put, h]

/-- Of two changes to one cell the later stays. -/
theorem CellTable.update_update (table : CellTable) {first second : Cell}
    (h : first.uri = second.uri) : (table.update first).update second = table.update second := by
  apply CellTable.ext
  rw [ordered_update, ordered_update, ordered_update, List.map_map]
  apply List.map_congr_left
  intro other _
  rw [Function.comp_apply, Cell.insteadOf, Cell.uri_insteadOf]
  by_cases heq : other.uri = second.uri
  · rw [if_pos heq, Cell.insteadOf, if_pos heq]
  · have hfirst : other.uri ≠ first.uri := h ▸ heq
    rw [if_neg heq, Cell.insteadOf, if_neg hfirst, Cell.insteadOf, if_neg heq]

/-- Writes a cell in the place of the one under its uri. -/
def Notebook.withCell (notebook : Notebook) (changed : Cell) : Notebook :=
  { notebook with table := notebook.table.update changed }

theorem Notebook.withCell_withCell (notebook : Notebook) {first second : Cell}
    (h : first.uri = second.uri) :
    (notebook.withCell first).withCell second = notebook.withCell second :=
  congrArg (fun table ↦ { notebook with table }) (notebook.table.update_update h)

namespace Session

/-! ## Programs -/

/-- A session that is written to, and the events so far. -/
structure Bench where
  session : Session
  events : List Event

/-- A program that fails leaves on the bench what it has written. -/
abbrev Program (α : Type) := EStateM SyncError Bench α

namespace Program

def check {α : Type} : Except SyncError α → Program α
  | .ok value => pure value
  | .error error => throw error

def refuse : Option SyncError → Program Unit
  | some error => throw error
  | none => pure ()

def write (change : Session → Session) : Program Unit :=
  modify fun bench ↦ { bench with session := change bench.session }

def emit (events : List Event) : Program Unit :=
  modify fun bench ↦ { bench with events := bench.events ++ events }

def fetch (uri : String) : Program Notebook := do
  check ((← get).session.workspace.fetch uri)

/-- Writes the cells of a notebook, then its version. -/
def writeTable (notebook : Notebook) (table : CellTable) : Program Notebook := do
  write (·.put { notebook with table })
  let changed := { notebook with table, version := notebook.version + 1 }
  write (·.put changed)
  return changed

/-- Writes the text of a cell, then its version, then the version of its notebook. -/
def writeCell (notebook : Notebook) (cell : Cell) (text : Text) (version : Int) :
    Program Cell := do
  let edited := notebook.withCell { cell with text }
  write (·.put edited)
  let numbered := edited.withCell { cell with text, version }
  write (·.put numbered)
  write (·.put { numbered with version := notebook.version + 1 })
  return { cell with text, version }

/-- Reads the index of a notebook, which keeps it if it was built. -/
def readIndex (notebook : Notebook) : Program DocumentIndex := do
  let ⟨(index, kept), log⟩ := notebook.readIndex
  emit (log.map .logged)
  write (·.put kept)
  return index

/-- Takes cells off the board one by one. -/
def forgetCells (uri : String) : List String → Program Unit
  | [] => pure ()
  | cell :: rest => do
    let session := (← get).session
    let (emptied, board) := session.board.clearCell uri cell
    write ({ · with board })
    emit (session.publications emptied)
    forgetCells uri rest

/-! ## The operations -/

/-- A notebook is filed when its cells were written, and the version of the one that was closed
under its uri is forgotten last. -/
def openNotebook (uri : String) (cells : List Cell) : Program Notebook := do
  let found := (← get).session.workspace
  let notebook := Notebook.start uri found.delimiter found.opened (found.lastVersion uri)
  let table ← check (CellTable.of cells)
  let notebook := notebook.withTable table
  write fun session ↦
    { session with workspace := { session.workspace with opened := found.opened + 1 } }
  write (·.put notebook)
  write fun session ↦
    { session with workspace := { session.workspace with
        versionsAtClose := session.workspace.versionsAtClose.erase uri } }
  emit ((found.openLog uri notebook.cells.length).map .logged)
  return notebook

def changeStructure (uri : String) (opened : List (Int × Cell)) (closed : List String) :
    Program Notebook := do
  let notebook ← fetch uri
  refuse ((closed.find? fun uri ↦ !notebook.has uri).map .closingUnknownCell)
  let (removed, staying) := notebook.cells.partition fun cell ↦ cell.uri ∈ closed
  let cells ← check (Notebook.insertAll staying opened)
  let table ← check (CellTable.of cells)
  let changed ← writeTable notebook table
  emit ((Notebook.structureLog removed changed).map .logged)
  forgetCells uri (removed.map (·.uri))
  return changed

def changeContent (uri cell : String) (edits : List Edit) (version : Option Int) :
    Program Cell := do
  let notebook ← fetch uri
  let found ← check ((notebook.cell? cell).elim
    (.error (.changingUnknownCell cell notebook.uri)) .ok)
  let text ← check ((Edit.applyAll found.text edits).mapError .edit)
  emit ((Edit.appliedLog edits).map .logged)
  writeCell notebook found text (version.getD (found.version + 1))

def document (uri : String) : Program Document := do
  let notebook ← fetch uri
  let index ← readIndex notebook
  return notebook.documentOf (← get).session.language index

def projectFix (uri : String) (fix : Fix) : Program (Option CellFix) := do
  let notebook ← fetch uri
  let index ← readIndex notebook
  let projected := CellFix.ofFix index fix
  emit (projected.log.map .logged)
  return projected.value

/-! ## What the programs come to -/

section Run

variable {α β : Type} (bench : Bench)

theorem run_bind (program : Program α) (rest : α → Program β) :
    (program >>= rest).run bench =
      match program.run bench with
      | .ok value bench => (rest value).run bench
      | .error error bench => .error error bench := by
  simp only [EStateM.run, bind, EStateM.bind]
  cases program bench <;> rfl

theorem run_pure (value : α) : (pure value : Program α).run bench = .ok value bench :=
  rfl

theorem run_get : (get : Program Bench).run bench = .ok bench bench :=
  rfl

theorem run_write (change : Session → Session) :
    (write change).run bench = .ok () { bench with session := change bench.session } :=
  rfl

theorem run_emit (events : List Event) :
    (emit events).run bench = .ok () { bench with events := bench.events ++ events } :=
  rfl

/-- A check goes on with its value or refuses, and writes nothing. -/
theorem run_check (result : Except SyncError α) :
    (check result).run bench =
      match result with
      | .ok value => .ok value bench
      | .error error => .error error bench := by
  cases result <;> rfl

theorem run_refuse (error : Option SyncError) :
    (refuse error).run bench =
      match error with
      | some error => .error error bench
      | none => .ok () bench := by
  cases error <;> rfl

/-- A notebook that is not open is refused before anything is written. -/
theorem run_fetch (uri : String) :
    (fetch uri).run bench =
      match bench.session.workspace.fetch uri with
      | .ok notebook => .ok notebook bench
      | .error error => .error error bench := by
  simp only [fetch, run_bind, run_get, run_check]
  cases bench.session.workspace.fetch uri <;> rfl

theorem run_writeTable (notebook : Notebook) (table : CellTable) :
    (writeTable notebook table).run bench =
      .ok (notebook.withTable table)
        { bench with session := bench.session.put (notebook.withTable table) } := by
  simp only [writeTable, run_bind, run_write, run_pure]
  rw [put_put]
  · rfl
  · rfl

/-- What is written piece by piece comes to one change of the cells. -/
theorem run_writeCell (notebook : Notebook) (cell : Cell) (text : Text) (version : Int) :
    let changed := { cell with text, version }
    (writeCell notebook cell text version).run bench =
      .ok changed { bench with
        session := bench.session.put (notebook.withTable (notebook.table.update changed)) } := by
  simp only [writeCell, run_bind, run_write, run_pure]
  rw [put_put, put_put, Notebook.withCell_withCell]
  · rfl
  · rfl
  · rfl
  · rfl

theorem run_readIndex (notebook : Notebook) :
    (readIndex notebook).run bench =
      .ok notebook.readIndex.value.1
        ⟨bench.session.put notebook.readIndex.value.2,
          bench.events ++ notebook.readIndex.log.map .logged⟩ :=
  rfl

/-- Cells are forgotten one by one, and the writes add up to those of the operation. -/
theorem run_forgetCells (uri : String) (cells : List String) :
    (forgetCells uri cells).run bench =
      .ok () ⟨(bench.session.forgetCells uri cells).value,
        bench.events ++ (bench.session.forgetCells uri cells).events⟩ := by
  induction cells generalizing bench with
  | nil =>
    rw [Session.forgetCells, List.append_nil]
    rfl
  | cons cell rest ih =>
    simp only [forgetCells, run_bind, run_get, run_write, run_emit, ih, List.append_assoc]
    rfl

end Run

/-- What a result of the session's own operation is on the bench. -/
def settle {α : Type} (session : Session) :
    Except SyncError (Witnessed (α × Session)) → EStateM.Result SyncError Bench α
  | .ok done => .ok done.value.1 ⟨done.value.2, done.events⟩
  | .error error => .error error ⟨session, []⟩

theorem run_openNotebook (session : Session) (uri : String) (cells : List Cell) :
    (openNotebook uri cells).run ⟨session, []⟩ =
      settle session (session.openNotebook uri cells) := by
  rw [Session.openNotebook, Workspace.openNotebook, Notebook.replaceCells]
  simp only [openNotebook, run_bind, run_get, run_check]
  cases CellTable.of cells <;> rfl

/-- The writes of a structure change come after all of its checks. -/
theorem run_changeStructure (session : Session) (uri : String) (opened : List (Int × Cell))
    (closed : List String) :
    (changeStructure uri opened closed).run ⟨session, []⟩ =
      settle session (session.changeStructure uri opened closed) := by
  simp only [changeStructure, run_bind, run_fetch, Session.changeStructure]
  cases session.workspace.fetch uri with
  | error error => rfl
  | ok notebook =>
    simp only [run_refuse, bind, Except.bind]
    rw [Notebook.changeStructure]
    cases closed.find? fun uri ↦ !notebook.has uri with
    | some unknown => rfl
    | none =>
      simp only [Option.map_none, run_check]
      generalize notebook.cells.partition (fun cell ↦ decide (cell.uri ∈ closed)) = parts
      obtain ⟨removed, staying⟩ := parts
      cases Notebook.insertAll staying opened with
      | error error => rfl
      | ok cells =>
        simp only [bind, Except.bind, Notebook.replaceCells]
        cases CellTable.of cells with
        | error error => rfl
        | ok table =>
          simp only [run_writeTable, run_emit, run_forgetCells, run_pure]
          rfl

/-- The writes of a content change come after all of its checks. -/
theorem run_changeContent (session : Session) (uri cell : String) (edits : List Edit)
    (version : Option Int) :
    (changeContent uri cell edits version).run ⟨session, []⟩ =
      settle session (session.changeContent uri cell edits version) := by
  simp only [changeContent, run_bind, run_fetch, Session.changeContent]
  cases session.workspace.fetch uri with
  | error error => rfl
  | ok notebook =>
    simp only [run_check, bind, Except.bind]
    rw [Notebook.changeContent]
    cases notebook.cell? cell with
    | none => rfl
    | some found =>
      simp only [Option.elim_some]
      cases Edit.applyAll found.text edits with
      | error error => rfl
      | ok text =>
        simp only [Except.mapError, run_emit, run_writeCell]
        rfl

theorem run_document (session : Session) (uri : String) :
    (document uri).run ⟨session, []⟩ = settle session (session.document uri) := by
  simp only [document, run_bind, run_fetch, Session.document]
  cases session.workspace.fetch uri with
  | error error => rfl
  | ok notebook =>
    simp only [run_readIndex, run_get, run_pure, bind, Except.bind, Notebook.documentOf,
      Notebook.uri_readIndex]
    rfl

theorem run_projectFix (session : Session) (uri : String) (fix : Fix) :
    (projectFix uri fix).run ⟨session, []⟩ = settle session (session.projectFix uri fix) := by
  simp only [projectFix, run_bind, run_fetch, Session.projectFix]
  cases session.workspace.fetch uri with
  | error error => rfl
  | ok notebook =>
    simp only [run_readIndex, run_emit, run_pure, bind, Except.bind, List.nil_append,
      ← List.map_append]
    rfl

end Program

/-! ## Operations that fail -/

/-- The operations of a session that can fail. -/
inductive Operation where
  | openNotebook (uri : String) (cells : List Cell)
  | changeStructure (uri : String) (opened : List (Int × Cell)) (closed : List String)
  | changeContent (uri cell : String) (edits : List Edit) (version : Option Int)
  | document (uri : String)
  | projectFix (uri : String) (fix : Fix)

namespace Operation

def call : Operation → Call
  | .openNotebook uri cells => .openNotebook uri cells
  | .changeStructure uri opened closed => .changeStructure uri opened closed
  | .changeContent uri cell edits version => .changeContent uri cell edits version
  | .document uri => .document uri
  | .projectFix uri fix => .projectFix uri fix

def inPlace : Operation → Program Reply
  | .openNotebook uri cells => do
    return .notebook (← Program.openNotebook uri cells)
  | .changeStructure uri opened closed => do
    return .notebook (← Program.changeStructure uri opened closed)
  | .changeContent uri cell edits version => do
    return .cell (← Program.changeContent uri cell edits version)
  | .document uri => do
    return .document (← Program.document uri)
  | .projectFix uri fix => do
    return .fix (← Program.projectFix uri fix)

end Operation

/-- What an answer is on the bench. -/
def Answer.onBench (answer : Answer) : EStateM.Result SyncError Bench Reply :=
  match answer.reply with
  | .ok reply => .ok reply ⟨answer.desk.session, answer.events⟩
  | .error error => .error error ⟨answer.desk.session, answer.events⟩

/-- A program that settles as an operation does answers and writes the same. -/
theorem run_of_settle {α : Type} (desk : Desk) (reply : α → Reply) {program : Program α}
    {result : Except SyncError (Witnessed (α × Session))}
    (h : program.run ⟨desk.session, []⟩ = Program.settle desk.session result) :
    (do return reply (← program) : Program Reply).run ⟨desk.session, []⟩ =
      (desk.attempt reply result).onBench := by
  rw [Program.run_bind, h]
  cases result <;> rfl

/-- An operation comes to the same whether it is done at once or piece by piece. -/
theorem run_inPlace (desk : Desk) (operation : Operation) :
    operation.inPlace.run ⟨desk.session, []⟩ = (desk.call operation.call).onBench := by
  cases operation with
  | openNotebook uri cells =>
    exact run_of_settle desk .notebook (Program.run_openNotebook desk.session uri cells)
  | changeStructure uri opened closed =>
    exact run_of_settle desk .notebook (Program.run_changeStructure desk.session uri opened closed)
  | changeContent uri cell edits version =>
    exact run_of_settle desk .cell (Program.run_changeContent desk.session uri cell edits version)
  | document uri => exact run_of_settle desk .document (Program.run_document desk.session uri)
  | projectFix uri fix =>
    exact run_of_settle desk .fix (Program.run_projectFix desk.session uri fix)

theorem Desk.attempt_of_error {α : Type} {desk : Desk} {reply : α → Reply}
    {result : Except SyncError (Witnessed (α × Session))} {error : SyncError}
    (h : (desk.attempt reply result).reply = .error error) :
    desk.attempt reply result = desk.tell (.error error) := by
  cases result with
  | ok done => simp [attempt, finish] at h
  | error other =>
    obtain rfl := Except.error.inj h
    rfl

/-- An operation that gives an error leaves the desk as it was. -/
theorem call_of_error {desk : Desk} {operation : Operation} {error : SyncError}
    (h : (desk.call operation.call).reply = .error error) :
    desk.call operation.call = desk.tell (.error error) := by
  cases operation <;> exact Desk.attempt_of_error h

/-- An operation that fails, done piece by piece, has written, logged and sent nothing when the
error comes. Every request after it is answered as if it had not been made. -/
theorem run_inPlace_of_error (desk : Desk) (operation : Operation) {error : SyncError}
    (h : (desk.call operation.call).reply = .error error) :
    operation.inPlace.run ⟨desk.session, []⟩ = .error error ⟨desk.session, []⟩ ∧
      (desk.call operation.call).desk = desk ∧ (desk.call operation.call).events = [] ∧
      ∀ requests, (desk.call operation.call).desk.run requests = desk.run requests := by
  rw [run_inPlace, call_of_error h]
  exact ⟨rfl, rfl, rfl, fun _ ↦ rfl⟩

/-- The only cell is taken away and another is inserted before a position is outside. -/
def insertedOutside : Operation :=
  .changeStructure "u" [(0, ⟨"d", ['b', feed], 0⟩), (5, ⟨"e", [], 0⟩)] ["c"]

/-- An insertion outside the notebook is refused after a cell was named to be closed. -/
theorem run_insertedOutside :
    (openedOnce.call insertedOutside.call).reply = .error (.positionOutside "e" 5 1) ∧
      insertedOutside.inPlace.run ⟨openedOnce.session, []⟩ =
        .error (.positionOutside "e" 5 1) ⟨openedOnce.session, []⟩ ∧
      (openedOnce.call insertedOutside.call).desk = openedOnce := by
  have hreply : (openedOnce.call insertedOutside.call).reply =
      .error (.positionOutside "e" 5 1) :=
    rfl
  obtain ⟨hrun, hdesk, -⟩ := run_inPlace_of_error openedOnce insertedOutside hreply
  exact ⟨hreply, hrun, hdesk⟩

end Session

end CellWeave
