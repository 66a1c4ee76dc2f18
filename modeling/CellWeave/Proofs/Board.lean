import CellWeave.Board
import CellWeave.Proofs.Table
/-!
# What the board does

The outcome of each operation on the board: which cells it names, which it remembers afterwards, and
which notebooks are retired.
-/

namespace CellWeave

namespace CellDiagnostics

theorem keys_blank (cells : List String) : (blank cells).keys = cells := by
  rw [Table.keys, blank, List.map_map]
  exact List.map_id cells

theorem mem_sortUris {uris : List String} {uri : String} : uri ∈ sortUris uris ↔ uri ∈ uris :=
  List.mem_mergeSort

theorem pairwise_sortUris {uris : List String} (h : uris.Nodup) :
    (sortUris uris).Pairwise (· < ·) := by
  have hsorted : (sortUris uris).Pairwise fun first second ↦
      (!decide (second < first)) = true := by
    apply List.pairwise_mergeSort
    · intro first second third hfirst hsecond
      simp only [Bool.not_eq_true', decide_eq_false_iff_not, Std.not_lt] at *
      exact Std.le_trans hfirst hsecond
    · intro first second
      simp only [Bool.or_eq_true, Bool.not_eq_true', decide_eq_false_iff_not, Std.not_lt]
      exact Std.le_total
  have hnodup : (sortUris uris).Nodup := List.nodup_mergeSort.2 h
  refine (hsorted.and hnodup).imp ?_
  rintro first second ⟨hle, hne⟩
  rw [Bool.not_eq_true', decide_eq_false_iff_not, Std.not_lt] at hle
  exact Std.lt_of_le_of_ne hle hne

theorem has_eq_true_iff {byCell : CellDiagnostics} {cell : String} :
    byCell.has cell = true ↔ cell ∈ byCell.keys := by
  rw [Table.has, Option.isSome_iff_ne_none, ne_eq, Table.get?_eq_none_iff, not_not]

/-- The left-over cells are those that had diagnostics and get no entry now. -/
theorem mem_leftovers {byCell : CellDiagnostics} {before : List String} {cell : String} :
    cell ∈ sortUris (before.filter fun cell ↦ !byCell.has cell) ↔
      cell ∈ before ∧ cell ∉ byCell.keys := by
  rw [mem_sortUris, List.mem_filter, ← has_eq_true_iff]
  simp

/-- A cell gets an entry if it is in the pass or had diagnostics before. -/
theorem mem_keys_withLeftovers {byCell : CellDiagnostics} {before : List String} {cell : String} :
    cell ∈ (byCell.withLeftovers before).keys ↔ cell ∈ byCell.keys ∨ cell ∈ before := by
  rw [withLeftovers, Table.keys, List.map_append, List.mem_append, ← Table.keys, ← Table.keys,
    keys_blank, mem_leftovers]
  tauto

/-- Where all lists are empty, so are those of the left-over cells. -/
theorem withLeftovers_blank (cells before : List String) :
    (blank cells).withLeftovers before =
      blank (cells ++ sortUris (before.filter fun cell ↦ !(blank cells).has cell)) :=
  List.map_append.symm

theorem mem_withIssues {byCell : CellDiagnostics} {cell : String} :
    cell ∈ byCell.withIssues ↔ ∃ diagnostics ≠ [], (cell, diagnostics) ∈ byCell := by
  simp [withIssues, Table.keys, and_comm]

/-- An entry is one of the pass, or the empty one of a left-over cell. -/
theorem mem_withLeftovers {byCell : CellDiagnostics} {before : List String} {cell : String}
    {diagnostics : List Diagnostic} : (cell, diagnostics) ∈ byCell.withLeftovers before ↔
      (cell, diagnostics) ∈ byCell ∨
        (cell ∈ before ∧ cell ∉ byCell.keys) ∧ diagnostics = [] := by
  rw [withLeftovers, List.mem_append, ← mem_leftovers, blank, List.mem_map]
  simp [eq_comm]

/-- The left-over cells come after the others, in strict order. -/
theorem keys_withLeftovers (byCell : CellDiagnostics) {before : List String}
    (hbefore : before.Nodup) : ∃ leftovers, (byCell.withLeftovers before).keys =
      byCell.keys ++ leftovers ∧ leftovers.Pairwise (· < ·) ∧
        ∀ cell, cell ∈ leftovers ↔ cell ∈ before ∧ cell ∉ byCell.keys := by
  refine ⟨_, ?_, pairwise_sortUris (hbefore.filter fun cell ↦ !byCell.has cell),
    fun _ ↦ mem_leftovers⟩
  rw [withLeftovers, Table.keys, List.map_append, ← Table.keys, ← Table.keys, keys_blank]

theorem nodup_keys_withLeftovers {byCell : CellDiagnostics} {before : List String}
    (hkeys : byCell.keys.Nodup) (hbefore : before.Nodup) :
    (byCell.withLeftovers before).keys.Nodup := by
  obtain ⟨leftovers, hall, hsorted, hleft⟩ := keys_withLeftovers byCell hbefore
  rw [hall]
  refine hkeys.append (hsorted.imp Std.ne_of_lt) ?_
  intro cell hcell hmem
  exact ((hleft cell).1 hmem).2 hcell

/-- Leftovers have no diagnostics. -/
theorem mem_withIssues_iff_withLeftovers {byCell : CellDiagnostics} (before : List String)
    {cell : String} : cell ∈ byCell.withIssues ↔
      ∃ diagnostics ≠ [], (cell, diagnostics) ∈ byCell.withLeftovers before := by
  rw [mem_withIssues]
  constructor
  · rintro ⟨diagnostics, hne, hmem⟩
    exact ⟨diagnostics, hne, mem_withLeftovers.2 (.inl hmem)⟩
  · rintro ⟨diagnostics, hne, hmem⟩
    rcases mem_withLeftovers.1 hmem with hmem | ⟨-, hnil⟩
    · exact ⟨diagnostics, hne, hmem⟩
    · exact absurd hnil hne

end CellDiagnostics

namespace Board

/-! ## What is remembered -/

theorem mem_markedCells {board : Board} {uri cell : String} :
    cell ∈ board.markedCells uri ↔ cell ∈ board.rememberedCells uri :=
  CellDiagnostics.mem_sortUris

theorem markedCells_eq_nil {board : Board} {uri : String} (h : board.rememberedCells uri = []) :
    board.markedCells uri = [] := by
  rw [markedCells, h, CellDiagnostics.sortUris, List.mergeSort_nil]

theorem rememberedCells_set (board : Board) (uri : String) (cells : List String) (other : String) :
    rememberedCells { board with remembered := board.remembered.set uri cells } other =
      if other = uri then cells else board.rememberedCells other := by
  rw [rememberedCells, Table.get?_set]
  split <;> rfl

/-- Clearing a cell forgets it under its uri and nothing else. -/
theorem rememberedCells_clearCell (board : Board) (uri cell other : String) :
    (board.clearCell uri cell).2.rememberedCells other =
      if other = uri then (board.rememberedCells uri).filter (· != cell)
      else board.rememberedCells other := by
  cases hget : board.remembered.get? uri with
  | some cells =>
    have hcells : board.rememberedCells uri = cells := by
      rw [rememberedCells, hget]
      rfl
    have hboard : (board.clearCell uri cell).2 =
        { board with remembered := board.remembered.set uri (cells.filter (· != cell)) } := by
      rw [clearCell, hget]
    rw [hboard, hcells]
    exact rememberedCells_set board uri _ other
  | none =>
    have hcells : board.rememberedCells uri = [] := by
      rw [rememberedCells, hget]
      rfl
    have hboard : (board.clearCell uri cell).2 = board := by
      rw [clearCell, hget]
    rw [hboard, hcells, List.filter_nil]
    split
    · next heq => rw [heq, hcells]
    · rfl

/-- A notebook that is retired leaves nothing remembered under its uri. -/
theorem rememberedCells_erase (board : Board) (uri : String) (retired : List Nat)
    (other : String) : rememberedCells ⟨board.remembered.erase uri, retired⟩ other =
      if other = uri then [] else board.rememberedCells other := by
  rw [rememberedCells, Table.get?_erase]
  split <;> rfl

/-! ## Outcomes -/

theorem hasRetired_iff {board : Board} {incarnation : Nat} :
    board.hasRetired incarnation = true ↔ incarnation ∈ board.retired :=
  List.contains_iff_mem

section Outcomes

variable {board : Board} {notebook : Notebook} {pass : Pass}

/-- A notebook is retired once; to clear it again is nothing. -/
theorem clear_of_retired (h : notebook.incarnation ∈ board.retired) :
    (board.clear notebook).value = ([], board) := by
  rw [clear, if_pos (hasRetired_iff.2 h)]

theorem clear_of_not_retired (h : notebook.incarnation ∉ board.retired) :
    (board.clear notebook).value =
      ((CellDiagnostics.blank notebook.uris).withLeftovers (board.rememberedCells notebook.uri),
        ⟨board.remembered.erase notebook.uri, notebook.incarnation :: board.retired⟩) := by
  rw [clear, if_neg (mt hasRetired_iff.1 h)]

/-- The outcome of a pass is thrown away if its notebook was retired. -/
theorem finish_of_retired (h : pass.incarnation ∈ board.retired) :
    (board.finish pass).value = ([], board) := by
  rw [finish, if_pos (hasRetired_iff.2 h)]

/-- The outcome of a pass takes the left-over cells in and replaces what was remembered. -/
theorem finish_of_not_retired (h : pass.incarnation ∉ board.retired) :
    (board.finish pass).value =
      (pass.byCell.withLeftovers (board.rememberedCells pass.notebook),
        { board with
          remembered := board.remembered.set pass.notebook pass.byCell.withIssues }) := by
  rw [finish, if_neg (mt hasRetired_iff.1 h)]

/-- Clearing retires one incarnation, and none comes back. -/
theorem mem_retired_clear {incarnation : Nat} :
    incarnation ∈ (board.clear notebook).value.2.retired ↔
      incarnation = notebook.incarnation ∨ incarnation ∈ board.retired := by
  by_cases hretired : notebook.incarnation ∈ board.retired
  · rw [clear_of_retired hretired]
    constructor
    · exact .inr
    · rintro (rfl | h)
      · exact hretired
      · exact h
  · rw [clear_of_not_retired hretired]
    exact List.mem_cons

@[simp] theorem retired_finish (board : Board) (pass : Pass) :
    (board.finish pass).value.2.retired = board.retired := by
  by_cases h : pass.incarnation ∈ board.retired
  · rw [finish_of_retired h]
  · rw [finish_of_not_retired h]

end Outcomes

end Board

end CellWeave
