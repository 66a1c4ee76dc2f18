import CellWeave.Proofs.Batch
import CellWeave.Proofs.Distinct
import CellWeave.Session.Request
/-!
# Steps of a session

Whatever a request other than a projection does to a session is made of a few steps: a notebook is
put back indexed or changed, a notebook is opened or closed, a cell is forgotten, the board is
cleared. What holds of every step therefore holds of every such request.
-/

namespace CellWeave

/-! ## Notebooks -/

namespace Notebook

/-- What one request can make of a notebook. -/
inductive Next (notebook : Notebook) : Notebook → Prop where
  | index (kept : Option DocumentIndex) (h : kept = notebook.kept ∨ kept = some notebook.index) :
    Next notebook { notebook with kept }
  | change (table : CellTable) : Next notebook (notebook.withTable table)

variable {notebook : Notebook}

theorem Next.refl (notebook : Notebook) : notebook.Next notebook :=
  .index notebook.kept (.inl rfl)

theorem next_readIndex (notebook : Notebook) : notebook.Next notebook.readIndex.value.2 := by
  unfold readIndex
  split
  · exact .refl notebook
  · exact .index _ (.inr rfl)

/-- Cells are taken if they make a table. -/
theorem replaceCells_eq_ok_iff {cells : List Cell} {changed : Notebook} :
    notebook.replaceCells cells = .ok changed ↔
      ∃ table : CellTable, table.ordered = cells ∧ changed = notebook.withTable table := by
  rw [replaceCells, bind_eq_ok_iff]
  refine exists_congr fun table ↦ and_congr CellTable.of_eq_ok_iff ?_
  simp [pure, Except.pure, eq_comm]

theorem next_of_replaceCells {cells : List Cell} {changed : Notebook}
    (h : notebook.replaceCells cells = .ok changed) : notebook.Next changed := by
  obtain ⟨table, -, rfl⟩ := replaceCells_eq_ok_iff.1 h
  exact .change table

/-- A content change puts the changed cell in the place of the one under its uri. -/
theorem changeContent_eq_ok_iff {uri : String} {edits : List Edit} {version : Option Int}
    {change : Traced (Cell × Notebook)} :
    notebook.changeContent uri edits version = .ok change ↔
      ∃ cell text changed, notebook.cell? uri = some cell ∧
        Edit.applyAll cell.text edits = .ok text ∧
        changed = { cell with text, version := version.getD (cell.version + 1) } ∧
        change = ⟨(changed, notebook.withTable (notebook.table.update changed)),
          Edit.appliedLog edits⟩ := by
  rw [changeContent]
  cases hcell : notebook.cell? uri with
  | none => simp [throw, throwThe, MonadExceptOf.throw]
  | some cell =>
    cases htext : Edit.applyAll cell.text edits with
    | error error => simp [htext, throw, throwThe, MonadExceptOf.throw]
    | ok text => simp [htext, pure, Except.pure, eq_comm]

theorem next_of_changeContent {cell : String} {edits : List Edit} {version : Option Int}
    {change : Traced (Cell × Notebook)}
    (h : notebook.changeContent cell edits version = .ok change) :
    notebook.Next change.value.2 := by
  obtain ⟨_, _, _, -, -, -, rfl⟩ := changeContent_eq_ok_iff.1 h
  exact .change _

/-- A structure change takes away the cells that are named, all of which are there, and inserts
others between those that stay. -/
theorem changeStructure_eq_ok_iff {opened : List (Int × Cell)} {closed : List String}
    {change : Traced (List Cell × Notebook)} :
    notebook.changeStructure opened closed = .ok change ↔
      (∀ uri ∈ closed, notebook.has uri = true) ∧
        ∃ table : CellTable,
          insertAll (notebook.cells.filter (·.uri ∉ closed)) opened = .ok table.ordered ∧
          change = ⟨(notebook.cells.filter (·.uri ∈ closed), notebook.withTable table),
            structureLog (notebook.cells.filter (·.uri ∈ closed)) (notebook.withTable table)⟩ := by
  rw [changeStructure]
  cases hunknown : closed.find? fun uri ↦ !notebook.has uri with
  | some unknown =>
    have hmem : unknown ∈ closed := List.mem_of_find?_eq_some hunknown
    have hnot : notebook.has unknown = false := by
      simpa using List.find?_some hunknown
    refine iff_of_false nofun ?_
    rintro ⟨hknown, -⟩
    exact absurd (hknown unknown hmem) (Bool.eq_false_iff.1 hnot)
  | none =>
    have hknown : ∀ uri ∈ closed, notebook.has uri = true := by
      simpa using hunknown
    have hstaying : notebook.cells.filter (fun cell ↦ !decide (cell.uri ∈ closed)) =
        notebook.cells.filter (·.uri ∉ closed) := by
      simp
    simp only [List.partition_eq_filter_filter, Function.comp_def, hstaying]
    constructor
    · intro h
      obtain ⟨cells, hinsert, h⟩ := bind_eq_ok_iff.1 h
      obtain ⟨changed, hchanged, h⟩ := bind_eq_ok_iff.1 h
      obtain ⟨table, rfl, rfl⟩ := replaceCells_eq_ok_iff.1 hchanged
      exact ⟨hknown, table, hinsert, (Except.ok.inj h).symm⟩
    · rintro ⟨-, table, hinsert, rfl⟩
      have hchanged : notebook.replaceCells table.ordered = .ok (notebook.withTable table) :=
        replaceCells_eq_ok_iff.2 ⟨table, rfl, rfl⟩
      simp only [hinsert, hchanged, bind, Except.bind, pure, Except.pure]

/-- A structure change takes away cells of the notebook only. -/
theorem next_of_changeStructure {opened : List (Int × Cell)} {closed : List String}
    {change : Traced (List Cell × Notebook)}
    (h : notebook.changeStructure opened closed = .ok change) :
    notebook.Next change.value.2 ∧ ∀ cell ∈ change.value.1, cell ∈ notebook.cells := by
  obtain ⟨-, _, -, rfl⟩ := changeStructure_eq_ok_iff.1 h
  exact ⟨.change _, fun cell hcell ↦ (List.mem_filter.1 hcell).1⟩

theorem next_of_write {α : Type} {desk : Desk} {change : Except SyncError α}
    (result : α → Traced (Reply × Notebook))
    (h : ∀ changed, change = .ok changed → desk.notebook.Next (result changed).value.2) :
    desk.notebook.Next
      (desk.write (change >>= fun changed ↦ .ok (result changed))).state.notebook := by
  cases change with
  | ok changed => exact h changed rfl
  | error error => exact .refl _

theorem next_of_consult (desk : Desk) (held : Bool)
    (answer : DocumentIndex → Except SyncError Reply) :
    desk.notebook.Next (desk.consult held answer).state.notebook := by
  unfold Desk.consult
  split
  · exact .refl _
  · exact next_readIndex _

/-- Any request to a notebook leaves it, indexes it or changes its cells. -/
theorem next_handle (desk : Desk) (request : Request) :
    desk.notebook.Next (desk.handle request).state.notebook := by
  cases request with
  | replaceCells => exact next_of_write _ fun _ ↦ next_of_replaceCells
  | changeStructure => exact next_of_write _ fun _ h ↦ (next_of_changeStructure h).1
  | changeContent => exact next_of_write _ fun _ ↦ next_of_changeContent
  | cell | uris | describe => exact .refl _
  | text | document | owner | hold => exact next_readIndex _
  | lines | documentLine | mapSpan | mapEdits => exact next_of_consult _ _ _

end Notebook

namespace Workspace

theorem fetch_eq_ok_iff {workspace : Workspace} {uri : String} {notebook : Notebook} :
    workspace.fetch uri = .ok notebook ↔ workspace.get? uri = some notebook := by
  rw [fetch]
  cases workspace.get? uri <;> simp

end Workspace

/-! ## What the editor is sent -/

/-- The diagnostics that are sent to the editor in the course of some events. -/
def sentIn (events : List Event) : CellDiagnostics :=
  events.filterMap Event.publication?

@[simp] theorem sentIn_nil : sentIn [] = [] :=
  rfl

@[simp] theorem sentIn_append (first second : List Event) :
    sentIn (first ++ second) = sentIn first ++ sentIn second :=
  List.filterMap_append

@[simp] theorem sentIn_addressed_cons (uri : String) (events : List Event) :
    sentIn (.addressed uri :: events) = sentIn events :=
  rfl

@[simp] theorem sentIn_map_addressed (uris : List String) :
    sentIn (uris.map .addressed) = [] := by
  rw [sentIn, List.filterMap_map, List.filterMap_eq_nil_iff]
  exact fun _ _ ↦ rfl

@[simp] theorem sentIn_map_logged (log : List LogRecord) : sentIn (log.map .logged) = [] := by
  rw [sentIn, List.filterMap_map, List.filterMap_eq_nil_iff]
  exact fun _ _ ↦ rfl

namespace Session

/-- Diagnostics are sent where the editor listens. -/
def sent (session : Session) (byCell : CellDiagnostics) : CellDiagnostics :=
  if session.publishes then byCell else []

@[simp] theorem sent_nil (session : Session) : session.sent [] = [] := by
  unfold sent
  split <;> rfl

@[simp] theorem sentIn_publications (session : Session) (byCell : CellDiagnostics) :
    sentIn (session.publications byCell) = session.sent byCell := by
  unfold publications sent
  split
  · rw [sentIn, List.filterMap_map]
    exact List.filterMap_some
  · rfl

/-! ## Steps -/

/-- A notebook that is open under the uri has the cell. -/
def Holds (session : Session) (uri cell : String) : Prop :=
  ∃ notebook, session.workspace.get? uri = some notebook ∧ cell ∈ notebook.uris

/-- One step on the way of a request that a session gets in state `origin`, with what the editor is
sent. -/
inductive Step (origin : Session) : Call → Session → CellDiagnostics → Session → Prop where
  | put {call : Call} {session : Session} {uri : String} {notebook changed : Notebook}
    (hopen : session.workspace.get? uri = some notebook) (hnext : notebook.Next changed) :
    Step origin call session [] (session.put changed)
  | close {session : Session} {uri : String} {notebook : Notebook}
    (hopen : session.workspace.get? uri = some notebook)
    (hheld : ∀ cell ∈ notebook.uris, origin.Holds uri cell) :
    Step origin (.closeNotebook uri) session
      (session.sent (session.board.clear notebook).value.1)
      { session with
        workspace := (session.workspace.closeNotebook uri).value.2
        board := (session.board.clear notebook).value.2 }
  | forget {call : Call} {session : Session} {uri cell : String} (hheld : origin.Holds uri cell) :
    Step origin call session (session.sent [(cell, [])])
      { session with board := (session.board.clearCell uri cell).2 }
  | openNotebook {session : Session} {uri : String} {cells : List Cell}
    {opened : Traced (Notebook × Workspace)}
    (hopened : session.workspace.openNotebook uri cells = .ok opened) :
    Step origin (.openNotebook uri cells) session [] { session with workspace := opened.value.2 }
  | clear {session : Session} {uri : String} {notebook : Notebook}
    (hopen : session.workspace.get? uri = some notebook) :
    Step origin (.clear uri) session []
      { session with board := (session.board.clear notebook).value.2 }

/-- Steps one after the other. -/
inductive Trace (origin : Session) (call : Call) :
    Session → CellDiagnostics → Session → Prop where
  | refl (session : Session) : Trace origin call session [] session
  | step {first second third : Session} {sent later : CellDiagnostics}
    (hstep : Step origin call first sent second) (htrace : Trace origin call second later third) :
    Trace origin call first (sent ++ later) third

variable {origin session : Session} {call : Call}

theorem Step.trace {after : Session} {sent : CellDiagnostics}
    (h : Step origin call session sent after) : Trace origin call session sent after := by
  have htrace := Trace.step h (.refl after)
  rwa [List.append_nil] at htrace

/-- Traces are put together where one ends and the other begins. -/
theorem Trace.append {first second third : Session} {sent later : CellDiagnostics}
    (h : Trace origin call first sent second) (hlater : Trace origin call second later third) :
    Trace origin call first (sent ++ later) third := by
  induction h with
  | refl => exact hlater
  | step hstep _ ih =>
    rw [List.append_assoc]
    exact .step hstep (ih hlater)

theorem trace_put {uri : String} {notebook changed : Notebook}
    (hopen : session.workspace.get? uri = some notebook) (hnext : notebook.Next changed) :
    Trace origin call session [] (session.put changed) :=
  (Step.put hopen hnext).trace

/-! ## Requests as steps -/

/-- Cells that a notebook held are forgotten step by step. -/
theorem trace_forgetCells {uri : String} {cells : List String}
    (hcells : ∀ cell ∈ cells, origin.Holds uri cell) (session : Session) :
    Trace origin call session (sentIn (session.forgetCells uri cells).events)
      (session.forgetCells uri cells).value := by
  induction cells generalizing session with
  | nil => exact .refl session
  | cons cell rest ih =>
    obtain ⟨hcell, hrest⟩ := List.forall_mem_cons.1 hcells
    simp only [forgetCells, sentIn_append, sentIn_publications]
    exact .step (.forget hcell) (ih hrest _)

theorem trace_changeContent {uri cell : String} {edits : List Edit} {version : Option Int}
    {done : Witnessed (Cell × Session)}
    (h : session.changeContent uri cell edits version = .ok done) :
    Trace origin call session (sentIn done.events) done.value.2 := by
  obtain ⟨notebook, hfetch, h⟩ := bind_eq_ok_iff.1 h
  obtain ⟨change, hchange, h⟩ := bind_eq_ok_iff.1 h
  obtain rfl := Except.ok.inj h
  rw [sentIn_map_logged]
  exact trace_put (Workspace.fetch_eq_ok_iff.1 hfetch) (Notebook.next_of_changeContent hchange)

theorem trace_changeStructure {uri : String} {opened : List (Int × Cell)} {closed : List String}
    {done : Witnessed (Notebook × Session)}
    (h : session.changeStructure uri opened closed = .ok done) :
    Trace session call session (sentIn done.events) done.value.2 := by
  obtain ⟨notebook, hfetch, h⟩ := bind_eq_ok_iff.1 h
  obtain ⟨change, hchange, h⟩ := bind_eq_ok_iff.1 h
  obtain rfl := Except.ok.inj h
  have hopen := Workspace.fetch_eq_ok_iff.1 hfetch
  obtain ⟨hnext, hremoved⟩ := Notebook.next_of_changeStructure hchange
  have hheld : ∀ cell ∈ change.value.1.map (·.uri), session.Holds uri cell := by
    intro cell hcell
    obtain ⟨removed, hmem, rfl⟩ := List.mem_map.1 hcell
    exact ⟨notebook, hopen, List.mem_map_of_mem (hremoved removed hmem)⟩
  simp only [sentIn_append, sentIn_map_logged, List.nil_append]
  exact .step (.put hopen hnext) (trace_forgetCells hheld _)

theorem trace_openNotebook {uri : String} {cells : List Cell}
    {done : Witnessed (Notebook × Session)} (h : session.openNotebook uri cells = .ok done) :
    Trace origin (.openNotebook uri cells) session (sentIn done.events) done.value.2 := by
  obtain ⟨opened, hopened, h⟩ := bind_eq_ok_iff.1 h
  obtain rfl := Except.ok.inj h
  rw [sentIn_map_logged]
  exact (Step.openNotebook hopened).trace

/-- Closing a notebook is one step, or none if it is not open. -/
theorem trace_closeNotebook (uri : String) :
    Trace session (.closeNotebook uri) session (sentIn (session.closeNotebook uri).events)
      (session.closeNotebook uri).value.2 := by
  cases hopen : session.workspace.get? uri with
  | none =>
    have hclose : session.closeNotebook uri = ⟨([], session), [note s!"{uri} already closed"]⟩ := by
      simp [closeNotebook, Workspace.closeNotebook, hopen]
    rw [hclose]
    exact .refl session
  | some notebook =>
    have hheld : ∀ cell ∈ notebook.uris, session.Holds uri cell :=
      fun cell hcell ↦ ⟨notebook, hopen, hcell⟩
    have hclose : ∃ log, session.closeNotebook uri =
        ⟨((session.board.clear notebook).value.1,
          { session with
            workspace := (session.workspace.closeNotebook uri).value.2
            board := (session.board.clear notebook).value.2 }),
          List.map .logged log ++ session.publications (session.board.clear notebook).value.1⟩ := by
      simp only [closeNotebook, Workspace.closeNotebook, hopen]
      exact ⟨_, rfl⟩
    obtain ⟨log, hclose⟩ := hclose
    rw [hclose]
    simpa using (Step.close hopen hheld).trace

theorem trace_document {uri : String} {done : Witnessed (Document × Session)}
    (h : session.document uri = .ok done) :
    Trace origin call session (sentIn done.events) done.value.2 := by
  obtain ⟨notebook, hfetch, h⟩ := bind_eq_ok_iff.1 h
  obtain rfl := Except.ok.inj h
  rw [sentIn_map_logged]
  exact trace_put (Workspace.fetch_eq_ok_iff.1 hfetch) (Notebook.next_readIndex notebook)

theorem trace_projectFix {uri : String} {fix : Fix} {done : Witnessed (Option CellFix × Session)}
    (h : session.projectFix uri fix = .ok done) :
    Trace origin call session (sentIn done.events) done.value.2 := by
  obtain ⟨notebook, hfetch, h⟩ := bind_eq_ok_iff.1 h
  obtain rfl := Except.ok.inj h
  rw [sentIn_map_logged]
  exact trace_put (Workspace.fetch_eq_ok_iff.1 hfetch) (Notebook.next_readIndex notebook)

theorem trace_owner (uri : String) (line : Int) :
    Trace origin call session (sentIn (session.owner uri line).events)
      (session.owner uri line).value.2 := by
  unfold owner
  split
  · exact .refl session
  · next notebook hopen =>
    rw [sentIn_map_logged]
    exact trace_put hopen (Notebook.next_readIndex notebook)

theorem trace_clear {uri : String} {done : Witnessed (CellDiagnostics × Session)}
    (h : session.clear uri = .ok done) :
    Trace origin (.clear uri) session (sentIn done.events) done.value.2 := by
  obtain ⟨notebook, hfetch, h⟩ := bind_eq_ok_iff.1 h
  obtain rfl := Except.ok.inj h
  rw [sentIn_map_logged]
  exact (Step.clear (Workspace.fetch_eq_ok_iff.1 hfetch)).trace

namespace Desk

variable {desk : Desk}

theorem trace_attempt {α : Type} {reply : α → Reply}
    {result : Except SyncError (Witnessed (α × Session))}
    (h : ∀ done, result = .ok done →
      Trace origin call desk.session (sentIn done.events) done.value.2) :
    Trace origin call desk.session (sentIn (desk.attempt reply result).events)
      (desk.attempt reply result).desk.session := by
  cases result with
  | ok done => exact h done rfl
  | error error => exact .refl _

/-- An open request opens the notebook or changes nothing. -/
theorem session_call_openNotebook (desk : Desk) (uri : String) (cells : List Cell) :
    (desk.call (.openNotebook uri cells)).desk.session =
      match desk.session.workspace.openNotebook uri cells with
      | .ok opened => { desk.session with workspace := opened.value.2 }
      | .error _ => desk.session := by
  cases hopened : desk.session.workspace.openNotebook uri cells <;>
    simp [call, attempt, finish, tell, openNotebook, hopened, bind, Except.bind, pure, Except.pure]

/-- The content changes of a client are steps, also if one of them fails. -/
theorem trace_applyGroups (uri : String) (changed : List Cell) (groups : List EditGroup)
    (desk : Desk) :
    Trace origin call desk.session (sentIn (desk.applyGroups uri changed groups).events)
      (desk.applyGroups uri changed groups).desk.session := by
  induction groups generalizing desk changed with
  | nil => exact .refl _
  | cons group rest ih =>
    cases hchange : desk.session.changeContent uri group.cell group.edits none with
    | error error =>
      simp only [applyGroups, hchange]
      exact .refl _
    | ok done =>
      simp only [applyGroups, hchange, sentIn_append]
      exact (trace_changeContent hchange).append (ih _ { desk with session := done.value.2 })

theorem trace_applyFix (uri : String) (fix : Fix) (desk : Desk) :
    Trace origin call desk.session (sentIn (desk.applyFix uri fix).events)
      (desk.applyFix uri fix).desk.session := by
  unfold applyFix
  split
  · exact .refl _
  · next hproject => exact trace_projectFix hproject
  · next projected session events hproject =>
    rw [sentIn_append]
    exact (trace_projectFix hproject).append
      (trace_applyGroups uri [] projected.groups { desk with session })

theorem trace_within (uri : String) (request : Notebook.Request) (desk : Desk) :
    Trace origin call desk.session (sentIn (desk.within uri request).events)
      (desk.within uri request).desk.session := by
  unfold within
  split
  · exact .refl _
  · next notebook hfetch =>
    rw [sentIn_map_logged]
    exact trace_put (Workspace.fetch_eq_ok_iff.1 hfetch)
      (Notebook.next_handle ⟨notebook, _⟩ request)

/-- Every request other than a projection is made of steps. -/
theorem trace_call (desk : Desk) (call : Call) :
    Trace desk.session call desk.session (sentIn (desk.call call).events)
      (desk.call call).desk.session := by
  cases call with
  | openNotebook => exact trace_attempt fun _ ↦ trace_openNotebook
  | closeNotebook uri => exact trace_closeNotebook uri
  | changeStructure => exact trace_attempt fun _ ↦ trace_changeStructure
  | changeContent => exact trace_attempt fun _ ↦ trace_changeContent
  | document => exact trace_attempt fun _ ↦ trace_document
  | projectFix => exact trace_attempt fun _ ↦ trace_projectFix
  | applyFix uri fix => exact trace_applyFix uri fix desk
  | owner uri line => exact trace_owner uri line
  | knowsCell | notebookOfCell => exact .refl _
  | clear => exact trace_attempt fun _ ↦ trace_clear
  | within uri request => exact trace_within uri request desk

/-- A desk at which nothing was done, with the standard settings. -/
abbrev blank : Desk :=
  ⟨start Notebook.standardLanguage .default true, []⟩

end Desk

end Session

end CellWeave
