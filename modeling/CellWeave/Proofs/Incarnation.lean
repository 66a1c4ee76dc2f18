import CellWeave.Proofs.Findings
/-!
# Incarnations

An incarnation tells notebooks apart and says nothing about what is in them: a notebook under
another incarnation takes the same changes, gives the same answers and makes the same records.
-/

namespace CellWeave

namespace Notebook

def renumber (notebook : Notebook) (incarnation : Nat) : Notebook :=
  { notebook with incarnation }

@[simp] theorem renumber_renumber (notebook : Notebook) (first second : Nat) :
    (notebook.renumber first).renumber second = notebook.renumber second :=
  rfl

theorem eq_renumber_of_renumber_eq {notebook other : Notebook} {incarnation : Nat}
    (h : notebook.renumber incarnation = other.renumber incarnation) :
    other = notebook.renumber other.incarnation := by
  have hrenumber := congrArg (renumber · other.incarnation) h
  exact hrenumber.symm

theorem readIndex_renumber (notebook : Notebook) (incarnation : Nat) :
    (notebook.renumber incarnation).readIndex =
      ⟨(notebook.readIndex.value.1, notebook.readIndex.value.2.renumber incarnation),
        notebook.readIndex.log⟩ := by
  have hkept : (notebook.renumber incarnation).kept.filter
      (·.version = (notebook.renumber incarnation).version) =
        notebook.kept.filter (·.version = notebook.version) :=
    rfl
  rw [readIndex, readIndex, hkept]
  split <;> rfl

theorem replaceCells_renumber (notebook : Notebook) (incarnation : Nat) (cells : List Cell) :
    (notebook.renumber incarnation).replaceCells cells =
      (notebook.replaceCells cells).map (renumber · incarnation) := by
  rw [replaceCells, replaceCells]
  cases CellTable.of cells <;> rfl

theorem changeStructure_renumber (notebook : Notebook) (incarnation : Nat)
    (opened : List (Int × Cell)) (closed : List String) :
    (notebook.renumber incarnation).changeStructure opened closed =
      (notebook.changeStructure opened closed).map fun ⟨(removed, changed), log⟩ ↦
        ⟨(removed, changed.renumber incarnation), log⟩ := by
  have hhas (uri : String) : (notebook.renumber incarnation).has uri = notebook.has uri := rfl
  have hcells : (notebook.renumber incarnation).cells = notebook.cells := rfl
  simp only [changeStructure, hhas, hcells]
  split
  · rfl
  · cases insertAll (notebook.cells.partition fun cell ↦ cell.uri ∈ closed).2 opened with
    | error error => rfl
    | ok cells =>
      dsimp only [bind, Except.bind]
      rw [replaceCells_renumber]
      cases notebook.replaceCells cells <;> rfl

/-- A content change does not look at the incarnation. -/
theorem changeContent_renumber (notebook : Notebook) (incarnation : Nat) (uri : String)
    (edits : List Edit) (version : Option Int) :
    (notebook.renumber incarnation).changeContent uri edits version =
      (notebook.changeContent uri edits version).map fun ⟨(cell, changed), log⟩ ↦
        ⟨(cell, changed.renumber incarnation), log⟩ := by
  have hcell : (notebook.renumber incarnation).cell? uri = notebook.cell? uri := rfl
  rw [changeContent, changeContent, hcell]
  cases notebook.cell? uri with
  | none => rfl
  | some cell =>
    dsimp only
    cases Edit.applyAll cell.text edits <;> rfl

/-! ## Requests -/

namespace Desk

def renumber (desk : Desk) (incarnation : Nat) : Desk :=
  { desk with notebook := desk.notebook.renumber incarnation }

theorem read_renumber (desk : Desk) (incarnation : Nat)
    (answer : DocumentIndex → Except SyncError Reply) :
    (desk.renumber incarnation).read answer =
      ⟨(desk.read answer).reply, (desk.read answer).state.renumber incarnation,
        (desk.read answer).log⟩ := by
  have hread := desk.notebook.readIndex_renumber incarnation
  rw [read, renumber, hread]
  rfl

theorem consult_renumber (desk : Desk) (incarnation : Nat) (held : Bool)
    (answer : DocumentIndex → Except SyncError Reply) :
    (desk.renumber incarnation).consult held answer =
      ⟨(desk.consult held answer).reply, (desk.consult held answer).state.renumber incarnation,
        (desk.consult held answer).log⟩ := by
  have hheld : (desk.renumber incarnation).held = desk.held := rfl
  rw [consult, consult, hheld]
  split
  · rfl
  · exact desk.read_renumber incarnation answer

/-- No request to a notebook looks at the incarnation. -/
theorem handle_renumber (desk : Desk) (incarnation : Nat) (request : Request) :
    (desk.renumber incarnation).handle request =
      ⟨(desk.handle request).reply, (desk.handle request).state.renumber incarnation,
        (desk.handle request).log⟩ := by
  have hnotebook : (desk.renumber incarnation).notebook = desk.notebook.renumber incarnation := rfl
  cases request with
  | replaceCells cells =>
    rw [handle, handle, hnotebook, replaceCells_renumber]
    cases desk.notebook.replaceCells cells <;> rfl
  | changeStructure opened closed =>
    rw [handle, handle, hnotebook, changeStructure_renumber]
    cases desk.notebook.changeStructure opened closed <;> rfl
  | changeContent cell edits version =>
    rw [handle, handle, hnotebook, changeContent_renumber]
    cases desk.notebook.changeContent cell edits version <;> rfl
  | cell | uris | describe => rfl
  | text | document | owner =>
    rw [handle, read_renumber]
    rfl
  | hold =>
    rw [handle, handle, hnotebook, readIndex_renumber]
    rfl
  | lines | documentLine | mapSpan | mapEdits =>
    rw [handle, consult_renumber]
    rfl

end Desk

end Notebook

namespace Pass

def renumber (pass : Pass) (incarnation : Nat) : Pass :=
  { pass with incarnation }

theorem read_renumber (pass : Pass) (incarnation : Nat) (finding : Finding) :
    (pass.renumber incarnation).read finding =
      ⟨(pass.read finding).value.renumber incarnation, (pass.read finding).log⟩ := by
  have hindex : (pass.renumber incarnation).index = pass.index := rfl
  rw [read, read, hindex]
  split <;> rfl

/-- No finding looks at the incarnation. -/
theorem readAll_renumber (pass : Pass) (incarnation : Nat) (findings : List Finding) :
    (pass.renumber incarnation).readAll findings =
      ⟨(pass.readAll findings).value.renumber incarnation, (pass.readAll findings).log⟩ := by
  induction findings generalizing pass with
  | nil => rfl
  | cons finding rest ih => simp only [readAll, read_renumber, ih]

end Pass

/-- It is of no account under which incarnation a notebook is not retired, or is. -/
theorem Board.start_renumber {board other : Board} {notebook : Notebook} {incarnation : Nat}
    (h : other.hasRetired incarnation = board.hasRetired notebook.incarnation)
    (analyzed : Option Int) :
    other.start (notebook.renumber incarnation) analyzed =
      ⟨(board.start notebook analyzed).value.map fun (pass, kept) ↦
        (pass.renumber incarnation, kept.renumber incarnation),
        (board.start notebook analyzed).log⟩ := by
  have hretired : other.hasRetired (notebook.renumber incarnation).incarnation =
      board.hasRetired notebook.incarnation :=
    h
  have hversion : (notebook.renumber incarnation).version = notebook.version := rfl
  rw [start, start, hversion]
  cases analyzed.filter (· ≠ notebook.version) with
  | some version => rfl
  | none =>
    simp only [hretired, Notebook.readIndex_renumber]
    split <;> rfl

end CellWeave
