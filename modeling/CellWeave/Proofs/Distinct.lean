import CellWeave.Notebook
import Mathlib.Data.List.Nodup
/-!
# Distinct cells

A table is made of cells with distinct uris and of no others, and is settled by their order. So the
cells that can be looked up are those in the list, each under its own uri, after every change.
-/

namespace CellWeave

namespace CellTable

variable {table : CellTable} {cells : List Cell} {uri : String} {cell : Cell}

/-- The order settles the table. -/
@[ext] theorem ext {table other : CellTable} (h : table.ordered = other.ordered) :
    table = other := by
  obtain ⟨ordered, byUri, rfl, _⟩ := table
  obtain ⟨_, byUri', rfl, _⟩ := other
  obtain rfl := h
  rfl

/-! ## Lookups -/

/-- What is looked up is the first cell of the list with the uri. -/
theorem get?_eq_find? (table : CellTable) (uri : String) :
    table.get? uri = table.ordered.find? (·.uri = uri) := by
  rw [get?, table.byUri_eq]
  generalize table.ordered = cells
  induction cells with
  | nil => rfl
  | cons cell rest ih =>
    rw [List.map_cons, Cell.entry, Table.get?_cons, ih, List.find?_cons]
    by_cases h : uri = cell.uri
    · simp [h]
    · simp [h, Ne.symm h]

theorem get?_of_mem (h : cell ∈ table.ordered) : table.get? cell.uri = some cell := by
  rw [get?_eq_find?]
  cases hfound : table.ordered.find? (·.uri = cell.uri) with
  | none => simpa using List.find?_eq_none.1 hfound cell h
  | some found =>
    have huri : found.uri = cell.uri := by
      simpa using List.find?_some hfound
    rw [List.inj_on_of_nodup_map table.nodup_uris (List.mem_of_find?_eq_some hfound) h huri]

/-- A lookup gives the cell of the list that has the uri. -/
theorem get?_eq_some_iff : table.get? uri = some cell ↔ cell ∈ table.ordered ∧ cell.uri = uri := by
  constructor
  · intro h
    rw [get?_eq_find?] at h
    refine ⟨List.mem_of_find?_eq_some h, ?_⟩
    simpa using List.find?_some h
  · rintro ⟨hcell, rfl⟩
    exact get?_of_mem hcell

/-- The lookup table and the list have the same cells. -/
theorem mem_byUri_iff : (uri, cell) ∈ table.byUri ↔ cell ∈ table.ordered ∧ cell.uri = uri := by
  rw [table.byUri_eq, List.mem_map]
  constructor
  · rintro ⟨_, hcell, rfl, rfl⟩
    exact ⟨hcell, rfl⟩
  · rintro ⟨hcell, rfl⟩
    exact ⟨cell, hcell, rfl⟩

/-! ## Making a table -/

/-- Cells with new and distinct uris are entered. -/
theorem exists_enter {before : Table Cell}
    (h : (before.keys ++ cells.map (·.uri)).Nodup) : ∃ table, enter before cells = .ok table := by
  induction cells generalizing before with
  | nil => exact ⟨before, rfl⟩
  | cons cell rest ih =>
    have hnew : cell.uri ∉ before.keys := fun hmem ↦
      (List.nodup_append.1 h).2.2 _ hmem _ List.mem_cons_self rfl
    have hhas : before.has cell.uri = false := by
      simpa [Table.has] using Table.get?_eq_none_iff.2 hnew
    rw [enter, hhas]
    refine ih ?_
    rw [Table.keys_set, if_neg hnew, List.append_assoc]
    exact h

/-- A uri that comes twice is the error. -/
theorem enter_error {before : Table Cell} {error : SyncError}
    (h : enter before cells = .error error) : ∃ cell ∈ cells, error = .repeatedCell cell.uri := by
  induction cells generalizing before with
  | nil => exact absurd h nofun
  | cons cell rest ih =>
    rw [enter] at h
    split at h
    · exact ⟨cell, List.mem_cons_self, (Except.error.inj h).symm⟩
    · obtain ⟨other, hmem, rfl⟩ := ih h
      exact ⟨other, List.mem_cons_of_mem cell hmem, rfl⟩

theorem of_eq (cells : List Cell) :
    (∃ table, enter [] cells = .ok table ∧ ∃ made, of cells = .ok made ∧ made.ordered = cells) ∨
      ∃ error, enter [] cells = .error error ∧ of cells = .error error := by
  unfold of
  split
  · next table henter => exact .inl ⟨table, henter, _, rfl, rfl⟩
  · next error henter => exact .inr ⟨error, henter, rfl⟩

/-- A table is made again of its own cells. -/
theorem of_ordered (table : CellTable) : of table.ordered = .ok table := by
  obtain ⟨_, -, made, hmade, hordered⟩ | ⟨error, herror, -⟩ := of_eq table.ordered
  · rw [hmade, ext hordered]
  · have hkeys : (Table.keys ([] : Table Cell) ++ table.ordered.map (·.uri)).Nodup :=
      table.nodup_uris
    obtain ⟨_, henter⟩ := exists_enter hkeys
    exact absurd (herror.symm.trans henter) nofun

theorem of_eq_ok_iff : of cells = .ok table ↔ table.ordered = cells := by
  constructor
  · intro h
    obtain ⟨_, -, made, hmade, rfl⟩ | ⟨_, -, herror⟩ := of_eq cells
    · rw [Except.ok.inj (h.symm.trans hmade)]
    · exact absurd (h.symm.trans herror) nofun
  · rintro rfl
    exact of_ordered table

/-- The table of cells with distinct uris. -/
def ofNodup (cells : List Cell) (h : (cells.map (·.uri)).Nodup) : CellTable :=
  ⟨cells, cells.map Cell.entry, rfl, h⟩

theorem of_of_nodup (h : (cells.map (·.uri)).Nodup) : of cells = .ok (ofNodup cells h) :=
  of_eq_ok_iff.2 rfl

/-- No table is made exactly if a uri comes twice. -/
theorem exists_of_eq_error_iff :
    (∃ error, of cells = .error error) ↔ ¬(cells.map (·.uri)).Nodup := by
  constructor
  · rintro ⟨error, herror⟩ hnodup
    exact absurd (herror.symm.trans (of_of_nodup hnodup)) nofun
  · intro hrepeat
    cases hof : of cells with
    | ok table =>
      rw [← of_eq_ok_iff.1 hof] at hrepeat
      exact absurd table.nodup_uris hrepeat
    | error error => exact ⟨error, rfl⟩

/-- The error names one of the cells. -/
theorem of_error {error : SyncError} (h : of cells = .error error) :
    ∃ cell ∈ cells, error = .repeatedCell cell.uri := by
  obtain ⟨_, -, _, hmade, -⟩ | ⟨_, henter, herror⟩ := of_eq cells
  · exact absurd (h.symm.trans hmade) nofun
  · rw [Except.error.inj (h.symm.trans herror)]
    exact enter_error henter

/-! ## Changing a cell -/

@[simp] theorem ordered_update (table : CellTable) (changed : Cell) :
    (table.update changed).ordered = table.ordered.map changed.insteadOf :=
  rfl

end CellTable

namespace Notebook

variable {notebook : Notebook}

theorem nodup_uris (notebook : Notebook) : notebook.uris.Nodup :=
  notebook.table.nodup_uris

theorem cell?_of_mem {cell : Cell} (h : cell ∈ notebook.cells) :
    notebook.cell? cell.uri = some cell :=
  CellTable.get?_of_mem h

theorem cell?_eq_some_iff {uri : String} {cell : Cell} :
    notebook.cell? uri = some cell ↔ cell ∈ notebook.cells ∧ cell.uri = uri :=
  CellTable.get?_eq_some_iff

end Notebook

end CellWeave
