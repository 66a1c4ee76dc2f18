import CellWeave.SyncError
import CellWeave.Table
/-!
# Tables of cells

The cells of a notebook are kept twice, in their order and under their uris. Both are made together,
and an edit changes the cell in both, so that they always have the same cells, of distinct uris.
-/

namespace CellWeave

/-- A cell with its uri before it, as it is looked up. -/
def Cell.entry (cell : Cell) : String × Cell :=
  (cell.uri, cell)

/-- A changed cell takes the place of a cell under its uri, and of no other. -/
def Cell.insteadOf (changed cell : Cell) : Cell :=
  if cell.uri = changed.uri then changed else cell

@[simp] theorem Cell.uri_insteadOf (changed cell : Cell) :
    (changed.insteadOf cell).uri = cell.uri := by
  unfold insteadOf
  split
  · next h => exact h.symm
  · rfl

structure CellTable where
  ordered : List Cell
  byUri : Table Cell
  byUri_eq : byUri = ordered.map Cell.entry
  nodup_uris : (ordered.map (·.uri)).Nodup
  deriving DecidableEq

namespace CellTable

theorem keys_map_entry (cells : List Cell) :
    Table.keys (cells.map Cell.entry) = cells.map (·.uri) :=
  List.map_map

/-- Enters cells under their uris, unless one of these is there before it. -/
def enter (byUri : Table Cell) : List Cell → Except SyncError (Table Cell)
  | [] => .ok byUri
  | cell :: rest =>
    if byUri.has cell.uri then .error (.repeatedCell cell.uri)
    else enter (byUri.set cell.uri cell) rest

/-- Cells that are entered come after those that were there, and all uris stay distinct. -/
theorem eq_append_of_enter {before table : Table Cell} {cells : List Cell}
    (hbefore : before.keys.Nodup) (h : enter before cells = .ok table) :
    table = before ++ cells.map Cell.entry ∧ table.keys.Nodup := by
  induction cells generalizing before with
  | nil =>
    obtain rfl := Except.ok.inj h
    exact ⟨(List.append_nil before).symm, hbefore⟩
  | cons cell rest ih =>
    rw [enter] at h
    split at h
    · exact absurd h nofun
    · next hnew =>
      have hnotMem : cell.uri ∉ before.keys := by
        rw [← Table.get?_eq_none_iff]
        simpa [Table.has] using hnew
      obtain ⟨rfl, hnodup⟩ := ih (Table.nodup_keys_set hbefore cell.uri cell) h
      rw [Table.set_of_notMem hnotMem] at hnodup ⊢
      exact ⟨List.append_assoc .., hnodup⟩

theorem eq_of_enter_nil {cells : List Cell} {table : Table Cell} (h : enter [] cells = .ok table) :
    table = cells.map Cell.entry ∧ (cells.map (·.uri)).Nodup := by
  have hempty : (Table.keys ([] : Table Cell)).Nodup := List.nodup_nil
  obtain ⟨rfl, hnodup⟩ := eq_append_of_enter hempty h
  exact ⟨rfl, keys_map_entry cells ▸ hnodup⟩

/-- The table of some cells, unless a uri comes twice. -/
def of (cells : List Cell) : Except SyncError CellTable :=
  match h : enter [] cells with
  | .ok byUri => .ok {
      ordered := cells
      byUri
      byUri_eq := (eq_of_enter_nil h).1
      nodup_uris := (eq_of_enter_nil h).2 }
  | .error error => .error error

def empty : CellTable :=
  ⟨[], [], rfl, List.nodup_nil⟩

def get? (table : CellTable) (uri : String) : Option Cell :=
  table.byUri.get? uri

/-- Puts a changed cell in its place, in the order and where it is looked up. -/
def update (table : CellTable) (changed : Cell) : CellTable where
  ordered := table.ordered.map changed.insteadOf
  byUri := table.byUri.map fun (uri, cell) ↦ (uri, changed.insteadOf cell)
  byUri_eq := by
    rw [table.byUri_eq, List.map_map, List.map_map]
    exact List.map_congr_left fun cell _ ↦ by simp [Cell.entry]
  nodup_uris := by
    rw [List.map_map]
    exact (List.map_congr_left fun cell _ ↦ changed.uri_insteadOf cell) ▸ table.nodup_uris

end CellTable

end CellWeave
