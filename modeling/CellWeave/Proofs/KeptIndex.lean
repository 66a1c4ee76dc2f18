import CellWeave.Proofs.Sound
import Mathlib.Algebra.Ring.Nat
/-!
# The kept index

A notebook keeps the index that was built last. It may be given again only as long as no change came
after it, and every change raises the version. So whichever requests were made before, replies are
those of a notebook that keeps no index, and an index is built for a version when it is first read,
and not again.
-/

namespace CellWeave

/-- The record is the one that the building of an index makes. -/
def LogRecord.isOfIndex (record : LogRecord) : Bool :=
  (Text.ofString "[LineIndex]").isPrefixOf record.message

/-- How many indexes were built. -/
def builtIn (log : List LogRecord) : Nat :=
  log.countP LogRecord.isOfIndex

theorem builtIn_indexedLog (index : DocumentIndex) (count : Nat) :
    builtIn (index.indexedLog count) = 1 := by
  simp [builtIn, DocumentIndex.indexedLog, LogRecord.isOfIndex, LogRecord.debug, Text.ofString,
    Text.ofChars, toString]

theorem builtIn_appliedLog (edits : List Edit) : builtIn (Edit.appliedLog edits) = 0 := by
  unfold Edit.appliedLog
  split <;> simp [builtIn, LogRecord.isOfIndex, LogRecord.debug, Text.ofString, Text.ofChars,
    toString]

namespace Notebook

theorem builtIn_structureLog (removed : List Cell) (notebook : Notebook) :
    builtIn (structureLog removed notebook) = 0 := by
  simp [builtIn, structureLog, LogRecord.isOfIndex, LogRecord.debug, Text.ofString, Text.ofChars,
    toString]

/-- The index of the current version is kept. -/
def isIndexed (notebook : Notebook) : Bool :=
  (notebook.kept.filter (·.version = notebook.version)).isSome

def withoutIndex (notebook : Notebook) : Notebook :=
  { notebook with kept := none }

variable {notebook : Notebook}

/-- An index is built if none of the current version is kept. -/
theorem builtIn_readIndex (notebook : Notebook) :
    builtIn notebook.readIndex.log = if notebook.isIndexed then 0 else 1 := by
  unfold readIndex isIndexed
  cases notebook.kept.filter (·.version = notebook.version) with
  | some kept => rfl
  | none => exact builtIn_indexedLog _ _

/-- Once it was read, the index of a version is kept. -/
theorem isIndexed_readIndex (notebook : Notebook) :
    notebook.readIndex.value.2.isIndexed = true := by
  cases hkept : notebook.kept.filter (·.version = notebook.version) with
  | some kept => simp [readIndex, isIndexed, hkept]
  | none => simp [readIndex, isIndexed, hkept, index, DocumentIndex.ofCells]

@[simp] theorem version_readIndex (notebook : Notebook) :
    notebook.readIndex.value.2.version = notebook.version := by
  unfold readIndex
  split <;> rfl

/-- No request lowers the version of a notebook. -/
theorem Next.version_le {changed : Notebook} (h : notebook.Next changed) :
    notebook.version ≤ changed.version := by
  cases h with
  | index => exact Int.le_refl _
  | change => exact Int.le_of_lt (Int.lt_succ _)

theorem withoutIndex_readIndex (notebook : Notebook) :
    notebook.readIndex.value.2.withoutIndex = notebook.withoutIndex := by
  unfold readIndex
  split <;> rfl

/-- A change leaves an index of an earlier version behind. -/
theorem KeepsIndex.isIndexed_withTable (h : notebook.KeepsIndex) (table : CellTable) :
    (notebook.withTable table).isIndexed = false := by
  rw [isIndexed, Option.isSome_eq_false_iff, Option.isNone_iff_eq_none, Option.filter_eq_none_iff]
  intro kept hkept
  have hle := (h kept hkept).1
  exact fun hversion ↦ Int.ne_of_lt (Int.lt_add_one_of_le hle) (of_decide_eq_true hversion)

/-! ## The kept index makes no difference -/

theorem replaceCells_withoutIndex (notebook : Notebook) (cells : List Cell) :
    notebook.withoutIndex.replaceCells cells =
      (notebook.replaceCells cells).map withoutIndex := by
  unfold replaceCells
  cases CellTable.of cells <;> rfl

/-- A structure change does not look at the kept index. -/
theorem changeStructure_withoutIndex (notebook : Notebook) (opened : List (Int × Cell))
    (closed : List String) :
    notebook.withoutIndex.changeStructure opened closed =
      (notebook.changeStructure opened closed).map fun ⟨(removed, changed), log⟩ ↦
        ⟨(removed, changed.withoutIndex), log⟩ := by
  have hhas (uri : String) : notebook.withoutIndex.has uri = notebook.has uri := rfl
  have hcells : notebook.withoutIndex.cells = notebook.cells := rfl
  simp only [changeStructure, hhas, hcells]
  split
  · rfl
  · cases insertAll (notebook.cells.partition fun cell ↦ cell.uri ∈ closed).2 opened with
    | error error => rfl
    | ok cells =>
      dsimp only [bind, Except.bind]
      rw [replaceCells_withoutIndex]
      cases notebook.replaceCells cells <;> rfl

/-- A content change does not look at the kept index. -/
theorem changeContent_withoutIndex (notebook : Notebook) (uri : String) (edits : List Edit)
    (version : Option Int) :
    notebook.withoutIndex.changeContent uri edits version =
      (notebook.changeContent uri edits version).map fun ⟨(changed, notebook), log⟩ ↦
        ⟨(changed, notebook.withoutIndex), log⟩ := by
  have hcell : notebook.withoutIndex.cell? uri = notebook.cell? uri := rfl
  rw [changeContent, changeContent, hcell]
  cases notebook.cell? uri with
  | none => rfl
  | some cell =>
    dsimp only
    cases Edit.applyAll cell.text edits <;> rfl

/-! ## One request -/

def Request.isChange : Request → Bool
  | .replaceCells _ | .changeStructure _ _ | .changeContent _ _ _ => true
  | _ => false

namespace Desk

/-- The request reads the notebook's own index, and not one that was put aside. -/
def reads (desk : Desk) : Request → Bool
  | .text | .document _ | .owner _ | .hold => true
  | .lines held | .documentLine held _ _ | .mapSpan held _ | .mapEdits held _ =>
    (desk.held.filter fun _ ↦ held).isNone
  | .replaceCells _ | .changeStructure _ _ | .changeContent _ _ _ | .cell _ | .uris
  | .describe => false

/-- The request changes the cells and does not fail. -/
def changes (desk : Desk) (request : Request) : Bool :=
  request.isChange && (desk.handle request).reply.isOk

/-- What a request does to the notebook, and the records it makes. -/
inductive Effect (desk : Desk) (request : Request) : Prop where
  | read (hreads : desk.reads request = true) (hchanges : desk.changes request = false)
    (hnotebook : (desk.handle request).state.notebook = desk.notebook.readIndex.value.2)
    (hlog : (desk.handle request).log = desk.notebook.readIndex.log)
  | change (hreads : desk.reads request = false) (hchanges : desk.changes request = true)
    (table : CellTable)
    (hnotebook : (desk.handle request).state.notebook = desk.notebook.withTable table)
    (hlog : builtIn (desk.handle request).log = 0)
  | stay (hreads : desk.reads request = false) (hchanges : desk.changes request = false)
    (hnotebook : (desk.handle request).state.notebook = desk.notebook)
    (hlog : builtIn (desk.handle request).log = 0)

variable {desk : Desk} {request : Request}

/-- A request about an index reads it, unless it is about one that was put aside. -/
theorem effect_of_consult {held : Bool} {answer : DocumentIndex → Except SyncError Reply}
    (hhandle : desk.handle request = desk.consult held answer)
    (hreads : desk.reads request = (desk.held.filter fun _ ↦ held).isNone)
    (hchanges : desk.changes request = false) : Effect desk request := by
  cases hheld : desk.held.filter fun _ ↦ held with
  | some index =>
    rw [hheld] at hreads
    refine .stay hreads hchanges ?_ ?_
    all_goals rw [hhandle, consult, hheld]
    rfl
  | none =>
    rw [hheld] at hreads
    refine .read hreads hchanges ?_ ?_
    all_goals rw [hhandle, consult, hheld]
    all_goals rfl

/-- A change that fails does nothing. -/
theorem effect_of_error {error : SyncError} (hreads : desk.reads request = false)
    (hhandle : desk.handle request = ⟨.error error, desk, []⟩) : Effect desk request := by
  refine .stay hreads ?_ ?_ ?_
  · rw [changes, hhandle]
    exact Bool.and_false _
  all_goals rw [hhandle]
  rfl

/-- Each request leaves the notebook, reads its index, or changes it. -/
theorem effect (desk : Desk) (request : Request) : Effect desk request := by
  cases request with
  | replaceCells cells =>
    cases hreplace : desk.notebook.replaceCells cells with
    | ok changed =>
      obtain ⟨table, -, rfl⟩ := replaceCells_eq_ok_iff.1 hreplace
      refine .change rfl ?_ table ?_ ?_
      all_goals simp only [changes, handle, hreplace]
      all_goals rfl
    | error error =>
      apply effect_of_error rfl
      rw [handle, hreplace]
      rfl
  | changeStructure opened closed =>
    cases hchange : desk.notebook.changeStructure opened closed with
    | ok change =>
      obtain ⟨-, table, -, rfl⟩ := changeStructure_eq_ok_iff.1 hchange
      refine .change rfl ?_ table ?_ ?_
      all_goals simp only [changes, handle, hchange]
      · rfl
      · rfl
      · exact builtIn_structureLog _ _
    | error error =>
      apply effect_of_error rfl
      rw [handle, hchange]
      rfl
  | changeContent cell edits version =>
    cases hchange : desk.notebook.changeContent cell edits version with
    | ok change =>
      obtain ⟨_, _, edited, -, -, -, rfl⟩ := changeContent_eq_ok_iff.1 hchange
      refine .change rfl ?_ (desk.notebook.table.update edited) ?_ ?_
      all_goals simp only [changes, handle, hchange]
      · rfl
      · rfl
      · exact builtIn_appliedLog edits
    | error error =>
      apply effect_of_error rfl
      rw [handle, hchange]
      rfl
  | cell | uris | describe => exact .stay rfl rfl rfl rfl
  | text | document | owner | hold => exact .read rfl rfl rfl rfl
  | lines | documentLine | mapSpan | mapEdits => exact effect_of_consult rfl rfl rfl

/-! ## Runs -/

/-- The requests that are handled one after the other, each with the desk it found. -/
def made (desk : Desk) : List Request → List (Request × Desk)
  | [] => []
  | request :: rest => (request, desk) :: (desk.handle request).state.made rest

/-- Something was read at the version. -/
def readsAt (desk : Desk) (requests : List Request) (version : Int) : Bool :=
  (desk.made requests).any fun (request, found) ↦
    found.notebook.version = version && found.reads request

/-- How many indexes were built for the version. -/
def buildsAt (desk : Desk) (requests : List Request) (version : Int) : Nat :=
  ((desk.made requests).map fun (request, found) ↦
    if found.notebook.version = version then builtIn (found.handle request).log else 0).sum

/-- In a run, an index of an earlier version is never taken for the current one. -/
theorem keepsIndex_of_mem_made {requests : List Request} (h : desk.notebook.KeepsIndex)
    {item : Request × Desk} (hmade : item ∈ desk.made requests) :
    item.2.notebook.KeepsIndex := by
  induction requests generalizing desk with
  | nil => exact absurd hmade List.not_mem_nil
  | cons request rest ih =>
    rcases List.mem_cons.1 hmade with rfl | hmade
    · exact h
    · exact ih (h.next (next_handle desk request)) hmade

theorem version_le_of_mem_made {requests : List Request} {item : Request × Desk}
    (hmade : item ∈ desk.made requests) : desk.notebook.version ≤ item.2.notebook.version := by
  induction requests generalizing desk with
  | nil => exact absurd hmade List.not_mem_nil
  | cons request rest ih =>
    rcases List.mem_cons.1 hmade with rfl | hmade
    · exact Int.le_refl _
    · exact Int.le_trans (next_handle desk request).version_le (ih hmade)

/-- A version that has gone by is not read again. -/
theorem readsAt_eq_false {version : Int} (h : version < desk.notebook.version)
    (requests : List Request) : desk.readsAt requests version = false := by
  rw [readsAt, List.any_eq_false]
  intro item hmade
  have hle := version_le_of_mem_made hmade
  simp [Int.ne_of_gt (Int.lt_of_lt_of_le h hle)]

/-- An index that is kept for the version at the start is not built in the run. -/
theorem buildsAt_eq (h : desk.notebook.KeepsIndex) (requests : List Request) (version : Int) :
    desk.buildsAt requests version =
      if desk.readsAt requests version ∧
        ¬ (desk.notebook.version = version ∧ desk.notebook.isIndexed) then 1 else 0 := by
  induction requests generalizing desk with
  | nil => simp [buildsAt, readsAt, made]
  | cons request rest ih =>
    have hbuilds : desk.buildsAt (request :: rest) version =
        (if desk.notebook.version = version then builtIn (desk.handle request).log else 0) +
          (desk.handle request).state.buildsAt rest version :=
      List.sum_cons
    have hreadsAt : desk.readsAt (request :: rest) version =
        (decide (desk.notebook.version = version) && desk.reads request ||
          (desk.handle request).state.readsAt rest version) :=
      List.any_cons
    rw [hbuilds, hreadsAt, ih (h.next (next_handle desk request))]
    cases effect desk request with
    | read hreads _ hnotebook hlog =>
      rw [hreads, hnotebook, hlog, builtIn_readIndex, isIndexed_readIndex, version_readIndex]
      by_cases hversion : desk.notebook.version = version
      · cases desk.notebook.isIndexed <;> simp [hversion]
      · simp [hversion]
    | change hreads _ table hnotebook hlog =>
      have hindexed := h.isIndexed_withTable table
      rw [hreads, hnotebook, hlog, hindexed]
      by_cases hversion : desk.notebook.version = version
      · -- The version that the change leaves behind is not read again.
        have hnever : (desk.handle request).state.readsAt rest version = false := by
          apply readsAt_eq_false
          rw [hnotebook, ← hversion]
          exact Int.lt_succ _
        simp [hnever]
      · simp [hversion]
    | stay hreads _ hnotebook hlog =>
      rw [hreads, hnotebook, hlog]
      simp

def withoutIndex (desk : Desk) : Desk :=
  { desk with notebook := desk.notebook.withoutIndex }

/-- Two outcomes are alike if they differ in the kept index and the records at most. -/
structure Alike (first second : Outcome Desk Reply) : Prop where
  reply_eq : first.reply = second.reply
  state_eq : first.state.withoutIndex = second.state.withoutIndex

theorem alike_read (h : desk.notebook.KeepsIndex)
    (answer : DocumentIndex → Except SyncError Reply) :
    Alike (desk.read answer) (desk.withoutIndex.read answer) where
  reply_eq := congrArg answer h.readIndex_eq
  state_eq := congrArg (Desk.mk · desk.held) (withoutIndex_readIndex desk.notebook)

theorem alike_consult (h : desk.notebook.KeepsIndex) (held : Bool)
    (answer : DocumentIndex → Except SyncError Reply) :
    Alike (desk.consult held answer) (desk.withoutIndex.consult held answer) := by
  have hheld : desk.withoutIndex.held = desk.held := rfl
  rw [consult, consult, hheld]
  split
  · exact ⟨rfl, rfl⟩
  · exact alike_read h answer

/-- A notebook without its kept index answers as it does with it. -/
theorem alike_handle (h : desk.notebook.KeepsIndex) (request : Request) :
    Alike (desk.handle request) (desk.withoutIndex.handle request) := by
  have hnotebook : desk.withoutIndex.notebook = desk.notebook.withoutIndex := rfl
  cases request with
  | replaceCells cells =>
    rw [handle, handle, hnotebook, replaceCells_withoutIndex]
    cases desk.notebook.replaceCells cells <;> exact ⟨rfl, rfl⟩
  | changeStructure opened closed =>
    rw [handle, handle, hnotebook, changeStructure_withoutIndex]
    cases desk.notebook.changeStructure opened closed <;> exact ⟨rfl, rfl⟩
  | changeContent cell edits version =>
    rw [handle, handle, hnotebook, changeContent_withoutIndex]
    cases desk.notebook.changeContent cell edits version <;> exact ⟨rfl, rfl⟩
  | cell | uris | describe => exact ⟨rfl, rfl⟩
  | text => exact alike_read h fun index ↦ .ok (.text index.text)
  | document language =>
    exact alike_read h fun index ↦ .ok (.document (desk.notebook.documentOf language index))
  | owner line => exact alike_read h fun index ↦ .ok (.owner (index.owner line))
  | hold =>
    have hkept : desk.notebook.readIndex.value.2.withoutIndex =
        desk.withoutIndex.notebook.readIndex.value.2.withoutIndex :=
      withoutIndex_readIndex desk.notebook
    have hindex := h.readIndex_eq
    let reply (index : DocumentIndex) : Except SyncError Reply := .ok (.held index.version)
    exact ⟨congrArg reply hindex, congrArg₂ Desk.mk hkept (congrArg some hindex)⟩
  | lines held =>
    exact alike_consult h held fun index ↦ .ok (.lines index.version index.allLines)
  | documentLine held cell line =>
    exact alike_consult h held fun index ↦ .ok (.documentLine (index.documentLine cell line))
  | mapSpan held span => exact alike_consult h held _
  | mapEdits held edits => exact alike_consult h held _

/-- What a request finds: the list and the lookup table have the same cells, each under its own uri
and no uri twice, the table is the one that is made of the list, and the request is handled as if no
index were kept. -/
structure Coherent (desk : Desk) (request : Request) : Prop where
  nodup_uris : desk.notebook.uris.Nodup
  mem_byUri_iff (uri : String) (cell : Cell) :
    (uri, cell) ∈ desk.notebook.table.byUri ↔ cell ∈ desk.notebook.table.ordered ∧ cell.uri = uri
  cell?_eq_some_iff (uri : String) (cell : Cell) :
    desk.notebook.cell? uri = some cell ↔ cell ∈ desk.notebook.cells ∧ cell.uri = uri
  of_cells : CellTable.of desk.notebook.cells = .ok desk.notebook.table
  readIndex_eq : desk.notebook.readIndex.value.1 =
    .ofCells desk.notebook.cells desk.notebook.version desk.notebook.delimiter.text
  alike : Alike (desk.handle request) (desk.withoutIndex.handle request)
  builtIn_eq_zero (h : desk.reads request = false) : builtIn (desk.handle request).log = 0

/-- A notebook whose kept index is that of its version is coherent. -/
theorem coherent (h : desk.notebook.KeepsIndex) (request : Request) : desk.Coherent request where
  nodup_uris := desk.notebook.nodup_uris
  mem_byUri_iff _ _ := CellTable.mem_byUri_iff
  cell?_eq_some_iff _ _ := Notebook.cell?_eq_some_iff
  of_cells := desk.notebook.table.of_ordered
  readIndex_eq := h.readIndex_eq
  alike := alike_handle h request
  builtIn_eq_zero hreads := by
    cases effect desk request with
    | read htrue _ _ _ => simp [htrue] at hreads
    | change _ _ _ _ hlog => exact hlog
    | stay _ _ _ hlog => exact hlog

/-- In a run from a notebook without cells, at whatever version, every request finds its notebook
coherent, and an index is built for a version once if something is read at it, and not at all if
not. -/
theorem coherent_and_buildsAt_eq (uri : String) (delimiter : Delimiter) (incarnation : Nat)
    (version : Int) (held : Option DocumentIndex) (requests : List Request) :
    let desk : Desk := ⟨Notebook.start uri delimiter incarnation version, held⟩
    (∀ request found, (request, found) ∈ desk.made requests → found.Coherent request) ∧
      ∀ version, desk.buildsAt requests version =
        if desk.readsAt requests version then 1 else 0 := by
  intro desk
  have hkeeps : desk.notebook.KeepsIndex :=
    keepsIndex_start uri delimiter incarnation version
  constructor
  · intro request found hmade
    exact coherent (keepsIndex_of_mem_made hkeeps hmade) request
  · intro version
    have hindexed : desk.notebook.isIndexed = false := rfl
    simp [buildsAt_eq hkeeps, hindexed]

/-- The text is read before and after an edit, and a failing edit comes between the two reads of the
second version. -/
def readTwice : List Request :=
  [.replaceCells [⟨"a", ['x', feed], 0⟩], .text, .changeContent "a" [⟨.of 1 0 1 1, ['y']⟩] none,
    .text, .changeContent "b" [] none, .text]

def blank : Desk :=
  ⟨Notebook.start "u" .default 0 5, none⟩

/-- An index that is read twice in one version is built once. -/
theorem buildsAt_readTwice :
    (Request.text, (blank.handle (.replaceCells [⟨"a", ['x', feed], 0⟩])).state) ∈
        blank.made readTwice ∧
      (blank.handle (.replaceCells [⟨"a", ['x', feed], 0⟩])).state.Coherent .text ∧
      blank.buildsAt readTwice 5 = 0 ∧ blank.buildsAt readTwice 6 = 1 ∧
      blank.buildsAt readTwice 7 = 1 := by
  obtain ⟨hcoherent, hbuilds⟩ := coherent_and_buildsAt_eq "u" .default 0 5 none readTwice
  have hmade : (Request.text, (blank.handle (.replaceCells [⟨"a", ['x', feed], 0⟩])).state) ∈
      blank.made readTwice :=
    List.mem_cons_of_mem _ List.mem_cons_self
  refine ⟨hmade, hcoherent _ _ hmade, ?_, ?_, ?_⟩
  · exact (hbuilds 5).trans (by decide +kernel)
  · exact (hbuilds 6).trans (by decide +kernel)
  · exact (hbuilds 7).trans (by decide +kernel)

end Desk

end Notebook

end CellWeave
