import CellWeave.Proofs.Restructured
import CellWeave.Proofs.Sound
/-!
# Undoing a close

Cells that were closed can be opened again, one after the other, each at the index it had. By the
time a cell is opened all that stood above it is there again, so its index is the one at which it
comes in.
-/

namespace CellWeave

namespace Notebook

open Cell (Inserted)

/-- The cells, each at the index it has in the notebook. -/
def placed (notebook : Notebook) (cells : List Cell) : List (Int × Cell) :=
  cells.map fun cell ↦ (notebook.cells.idxOf cell, cell)

variable {notebook : Notebook} {closed : List String}

/-- The induction is on the cells that are still to be put back: all cells before them are there. -/
theorem inserted_idxOf (p : Cell → Bool) (before after : List Cell)
    (hdistinct : (before ++ after).Nodup) :
    Inserted (before ++ after.filter fun cell ↦ !p cell)
      ((after.filter p).map fun cell ↦ (((before ++ after).idxOf cell : Int), cell))
      (before ++ after) := by
  induction after generalizing before with
  | nil => exact .nil _
  | cons cell rest ih =>
    have hrest : Inserted (before ++ cell :: rest.filter fun cell ↦ !p cell)
        ((rest.filter p).map fun other ↦ (((before ++ cell :: rest).idxOf other : Int), other))
        (before ++ cell :: rest) := by
      rw [List.append_cons] at hdistinct
      simpa only [← List.append_cons] using ih (before ++ [cell]) hdistinct
    by_cases hcell : p cell
    · have hnew : cell ∉ before :=
        fun hmem ↦ List.disjoint_of_nodup_append hdistinct hmem List.mem_cons_self
      have hplace : (before ++ cell :: rest).idxOf cell = before.length := by
        rw [List.idxOf_append_of_notMem hnew, List.idxOf_cons_self, Nat.add_zero]
      rw [List.filter_cons_of_neg (by simpa using hcell), List.filter_cons_of_pos hcell,
        List.map_cons]
      exact .cons (congrArg Nat.cast hplace) hrest
    · rw [List.filter_cons_of_pos (by simpa using hcell), List.filter_cons_of_neg hcell]
      exact hrest

/-- The closed cells come back to where they were. -/
theorem inserted_placed (notebook : Notebook) (closed : List String) :
    Inserted (notebook.staying closed) (notebook.placed (notebook.cells.filter (·.uri ∈ closed)))
      notebook.cells := by
  have hcells : notebook.cells.Nodup := notebook.nodup_uris.of_map _
  have hinserted := inserted_idxOf (fun cell ↦ cell.uri ∈ closed) [] notebook.cells hcells
  simpa [staying, placed] using hinserted

/-- Closing cells of a notebook and nothing else. -/
theorem changeStructure_nil_left (hclosed : ∀ uri ∈ closed, uri ∈ notebook.uris) :
    ∃ table : CellTable, table.ordered = notebook.staying closed ∧ ∃ log,
      notebook.changeStructure [] closed =
        .ok ⟨(notebook.cells.filter (·.uri ∈ closed), notebook.withTable table), log⟩ := by
  have hinserted : insertAll (notebook.staying closed) [] = .ok (notebook.staying closed) := rfl
  obtain ⟨table, htable⟩ := exists_table_of_insertAll hinserted
  rw [← htable] at hinserted
  exact ⟨table, htable, _, changeStructure_eq_ok_iff.2
    ⟨fun uri huri ↦ has_iff.2 (hclosed uri huri), table, htable ▸ hinserted, rfl⟩⟩

/-- The closed cells can be opened again at the places they had. -/
theorem insertAll_placed (notebook : Notebook) (closed : List String) :
    insertAll (notebook.staying closed)
      (notebook.placed (notebook.cells.filter (·.uri ∈ closed))) = .ok notebook.cells := by
  apply insertAll_eq_ok_iff.2
  refine ⟨inserted_placed notebook closed, ?_, ?_⟩
  · have huris : ((notebook.cells.filter (·.uri ∈ closed)).map (·.uri)).Nodup :=
      notebook.nodup_uris.sublist (List.filter_sublist.map _)
    rwa [placed, List.map_map]
  · intro item hitem
    obtain ⟨cell, hcell, rfl⟩ := List.mem_map.1 hitem
    have hclosed : cell.uri ∈ closed := of_decide_eq_true (List.mem_filter.1 hcell).2
    exact notMem_uris_staying_iff.2 fun _ ↦ hclosed

theorem changeStructure_placed {table : CellTable}
    (htable : table.ordered = notebook.staying closed) :
    ∃ log, (notebook.withTable table).changeStructure
        (notebook.placed (notebook.cells.filter (·.uri ∈ closed))) [] =
      .ok ⟨([], { notebook with version := notebook.version + 2 }), log⟩ := by
  let gone := notebook.withTable table
  let back := { notebook with version := notebook.version + 2 }
  have hstaying : gone.cells.filter (·.uri ∉ []) = notebook.staying closed := by
    simpa [gone, withTable] using htable
  have hremoved : gone.cells.filter (·.uri ∈ []) = [] := by
    simp
  have hback : gone.withTable notebook.table = back := by
    simp [gone, back, withTable, Int.add_assoc]
  have hinsert := insertAll_placed notebook closed
  rw [← hstaying] at hinsert
  refine ⟨structureLog [] back, changeStructure_eq_ok_iff.2
    ⟨fun _ hnil ↦ absurd hnil List.not_mem_nil, notebook.table, hinsert, ?_⟩⟩
  rw [hremoved, hback]

/-! ## Closing and opening again -/

/-- What is read of a notebook that has the cells of an earlier one again. -/
structure Restores (notebook back : Notebook) : Prop where
  eq : back = { notebook with version := notebook.version + 2 }
  text_eq : back.readIndex.value.1.text = notebook.readIndex.value.1.text
  line?_eq (line : Int) :
    back.readIndex.value.1.line? line = notebook.readIndex.value.1.line? line
  documentLine_eq (cell : String) (line : Int) :
    back.readIndex.value.1.documentLine cell line =
      notebook.readIndex.value.1.documentLine cell line
  lineCountOf_eq (cell : String) :
    back.readIndex.value.1.lineCountOf cell = notebook.readIndex.value.1.lineCountOf cell

/-- A kept index is not given again, as its version is gone. -/
theorem KeepsIndex.restores (h : notebook.KeepsIndex) :
    notebook.Restores { notebook with version := notebook.version + 2 } := by
  have hback : KeepsIndex { notebook with version := notebook.version + 2 } := by
    intro kept hkept
    have hle := (h kept hkept).1
    constructor <;> dsimp only <;> omega
  have hindex := h.readIndex_eq
  have hindexBack := hback.readIndex_eq
  constructor
  · rfl
  all_goals
    intros
    rw [hindex, hindexBack]
    rfl

/-- Closing cells is undone by opening those that were given back, in the order they were given and
each at the index it had. -/
theorem changeStructure_undone (hkeeps : notebook.KeepsIndex)
    (hclosed : ∀ uri ∈ closed, uri ∈ notebook.uris) :
    ∃ removed gone log, notebook.changeStructure [] closed = .ok ⟨(removed, gone), log⟩ ∧
      removed = notebook.cells.filter (·.uri ∈ closed) ∧
      gone.cells = notebook.cells.filter (·.uri ∉ closed) ∧
      ∃ back log, gone.changeStructure (notebook.placed removed) [] = .ok ⟨([], back), log⟩ ∧
        notebook.Restores back := by
  obtain ⟨table, htable, log, hclose⟩ := changeStructure_nil_left hclosed
  obtain ⟨log', hopen⟩ := changeStructure_placed htable
  have hgone : table.ordered = notebook.cells.filter (·.uri ∉ closed) := htable
  exact ⟨_, _, log, hclose, rfl, hgone, _, log', hopen, hkeeps.restores⟩

/-- The first and the last of three cells are closed and opened again. -/
theorem changeStructure_undone_threeCells :
    threeCells.KeepsIndex ∧ (∀ uri ∈ ["c", "a"], uri ∈ threeCells.uris) ∧
      ∃ gone log, threeCells.changeStructure [] ["c", "a"] =
          .ok ⟨([⟨"a", ['x', feed], 0⟩, ⟨"c", ['w'], 0⟩], gone), log⟩ ∧
        gone.cells = [⟨"b", ['y', feed, 'z', feed], 0⟩] ∧
        ∃ back log, gone.changeStructure
            [(0, ⟨"a", ['x', feed], 0⟩), (2, ⟨"c", ['w'], 0⟩)] [] = .ok ⟨([], back), log⟩ ∧
          threeCells.Restores back := by
  have hkeeps : threeCells.KeepsIndex := nofun
  have hclosed : ∀ uri ∈ ["c", "a"], uri ∈ threeCells.uris := by decide
  obtain ⟨_, gone, log, hclose, rfl, hgone, back, hback⟩ :=
    changeStructure_undone hkeeps hclosed
  exact ⟨hkeeps, hclosed, gone, log, hclose, hgone, back, hback⟩

end Notebook

end CellWeave
