import CellWeave.Proofs.CellEdits
import CellWeave.Proofs.Step
/-!
# Structure changes

Cells that come in are put into the list one after the other, and the place of each counts the cells
that are there by then. A structure change is made if all these places exist and no uri comes twice,
and then the cells that stay are in the order they were in. A uri may leave and come back in one
change.
-/

namespace CellWeave

/-! ## Insertions -/

theorem insertIdx_length_append {α : Type} (before after : List α) (item : α) :
    (before ++ after).insertIdx before.length item = before ++ item :: after := by
  induction before with
  | nil => rfl
  | cons first rest ih =>
    rw [List.cons_append, List.length_cons, List.insertIdx_succ_cons, ih, List.cons_append]

namespace Cell

/-- The list after cells came in one after the other, each with as many cells above it as its
position says. -/
inductive Inserted : List Cell → List (Int × Cell) → List Cell → Prop where
  | nil (cells : List Cell) : Inserted cells [] cells
  | cons {before after cells : List Cell} {position : Int} {cell : Cell}
    {rest : List (Int × Cell)} (hposition : position = before.length)
    (hrest : Inserted (before ++ cell :: after) rest cells) :
    Inserted (before ++ after) ((position, cell) :: rest) cells

variable {cells last : List Cell} {opened rest : List (Int × Cell)} {position : Int} {cell : Cell}

theorem inserted_nil_iff : Inserted cells [] last ↔ last = cells := by
  constructor
  · rintro ⟨⟩
    rfl
  · rintro rfl
    exact .nil last

theorem inserted_cons_iff : Inserted cells ((position, cell) :: rest) last ↔
    ∃ before after, cells = before ++ after ∧ position = before.length ∧
      Inserted (before ++ cell :: after) rest last := by
  constructor
  · rintro ⟨⟩
    next before after hposition hrest => exact ⟨before, after, rfl, hposition, hrest⟩
  · rintro ⟨before, after, rfl, hposition, hrest⟩
    exact .cons hposition hrest

/-- Cells that were there stay in their order. -/
theorem Inserted.sublist (h : Inserted cells opened last) : cells.Sublist last := by
  induction h with
  | nil cells => exact .refl cells
  | @cons before after _ _ cell _ _ _ ih =>
    have hskip : (before ++ after).Sublist (before ++ cell :: after) :=
      (List.sublist_cons_self cell after).append_left before
    exact hskip.trans ih

theorem Inserted.perm (h : Inserted cells opened last) :
    last.Perm (cells ++ opened.map (·.2)) := by
  induction h with
  | nil cells => rw [List.map_nil, List.append_nil]
  | @cons before after last _ cell rest _ _ ih =>
    calc
      last.Perm (before ++ cell :: after ++ rest.map (·.2)) := ih
      List.Perm _ (cell :: (before ++ after) ++ rest.map (·.2)) :=
        List.perm_middle.append_right _
      List.Perm _ (before ++ after ++ cell :: rest.map (·.2)) := List.perm_middle.symm

/-- A list of insertions can be made if the list is long enough for each when its turn comes. -/
theorem exists_inserted_iff : (∃ last, Inserted cells opened last) ↔
    ∀ (k : Nat) (h : k < opened.length), 0 ≤ opened[k].1 ∧ opened[k].1 ≤ cells.length + k := by
  induction opened generalizing cells with
  | nil => simp [inserted_nil_iff]
  | cons item rest ih =>
    obtain ⟨position, cell⟩ := item
    constructor
    · rintro ⟨last, hlast⟩ k hk
      obtain ⟨before, after, rfl, rfl, hrest⟩ := inserted_cons_iff.1 hlast
      cases k with
      | zero =>
        simp only [List.length_append, List.getElem_cons_zero]
        omega
      | succ k =>
        have hrest := ih.1 ⟨last, hrest⟩ k (Nat.lt_of_succ_lt_succ hk)
        simp only [List.length_append, List.length_cons, List.getElem_cons_succ] at hrest ⊢
        omega
    · intro h
      obtain ⟨hpos, hle⟩ : 0 ≤ position ∧ position ≤ cells.length := by
        simpa using h 0 (Nat.succ_pos _)
      have hplace : position = (cells.take position.toNat).length := by
        rw [List.length_take]
        omega
      have hrest : ∃ last, Inserted (cells.take position.toNat ++ cell ::
          cells.drop position.toNat) rest last := by
        apply ih.2
        intro k hk
        have hnext := h (k + 1) (Nat.succ_lt_succ hk)
        simp only [List.getElem_cons_succ, List.length_append, List.length_cons, List.length_take,
          List.length_drop] at hnext ⊢
        omega
      obtain ⟨last, hlast⟩ := hrest
      exact ⟨last, inserted_cons_iff.2 ⟨_, _, (List.take_append_drop _ _).symm, hplace, hlast⟩⟩

end Cell

namespace Notebook

open Cell (Inserted)

variable {cells last : List Cell} {opened rest : List (Int × Cell)} {position : Int} {cell : Cell}

theorem insertAll_cons_eq_ok_iff : insertAll cells ((position, cell) :: rest) = .ok last ↔
    cell.uri ∉ cells.map (·.uri) ∧ ∃ before after, cells = before ++ after ∧
      position = before.length ∧ insertAll (before ++ cell :: after) rest = .ok last := by
  rw [insertAll]
  split
  · next hopen => exact iff_of_false nofun fun h ↦ h.1 hopen
  · next hnew =>
    rw [and_iff_right hnew]
    split
    · next houtside =>
      refine iff_of_false nofun ?_
      rintro ⟨before, after, rfl, rfl, -⟩
      rw [List.length_append] at houtside
      omega
    · next hinside =>
      constructor
      · intro h
        refine ⟨cells.take position.toNat, cells.drop position.toNat,
          (List.take_append_drop _ _).symm, ?_, ?_⟩
        · rw [List.length_take]
          omega
        · rwa [← insertIdx_length_append, List.take_append_drop, List.length_take,
            Nat.min_eq_left (by omega)]
      · rintro ⟨before, after, rfl, rfl, h⟩
        rwa [Int.toNat_natCast, insertIdx_length_append]

/-- None of the uris is there after a cell came in if none was before and none is the cell's. -/
theorem forall_notMem_uris_middle_iff {before after : List Cell} :
    (∀ item ∈ rest, item.2.uri ∉ (before ++ cell :: after).map (·.uri)) ↔
      cell.uri ∉ rest.map (·.2.uri) ∧
        ∀ item ∈ rest, item.2.uri ∉ (before ++ after).map (·.uri) := by
  have hmem (uri : String) : uri ∈ (before ++ cell :: after).map (·.uri) ↔
      uri = cell.uri ∨ uri ∈ (before ++ after).map (·.uri) := by
    rw [List.map_append, List.map_cons, List.mem_append, List.mem_cons, List.map_append,
      List.mem_append]
    tauto
  simp only [hmem, not_or, forall_and]
  apply and_congr_left'
  simp only [List.mem_map, not_exists, not_and, Prod.forall]

/-- Insertions are made if there are places for them, and the uris are new and not repeated. -/
theorem insertAll_eq_ok_iff : insertAll cells opened = .ok last ↔
    Inserted cells opened last ∧ (opened.map (·.2.uri)).Nodup ∧
      ∀ item ∈ opened, item.2.uri ∉ cells.map (·.uri) := by
  induction opened generalizing cells with
  | nil => simp [insertAll, Cell.inserted_nil_iff, eq_comm]
  | cons item rest ih =>
    obtain ⟨position, cell⟩ := item
    rw [insertAll_cons_eq_ok_iff, Cell.inserted_cons_iff, List.map_cons, List.nodup_cons,
      List.forall_mem_cons]
    constructor
    · rintro ⟨hnew, before, after, rfl, hposition, h⟩
      obtain ⟨hrest, hnodup, hnot⟩ := ih.1 h
      obtain ⟨hcell, hnot⟩ := forall_notMem_uris_middle_iff.1 hnot
      exact ⟨⟨before, after, rfl, hposition, hrest⟩, ⟨hcell, hnodup⟩, hnew, hnot⟩
    · rintro ⟨⟨before, after, rfl, hposition, hrest⟩, ⟨hcell, hnodup⟩, hnew, hnot⟩
      have hnot := forall_notMem_uris_middle_iff.2 ⟨hcell, hnot⟩
      exact ⟨hnew, before, after, rfl, hposition, ih.2 ⟨hrest, hnodup, hnot⟩⟩

/-! ## Changes that are made -/

/-- The cells that are not closed, in their order. -/
def staying (notebook : Notebook) (closed : List String) : List Cell :=
  notebook.cells.filter (·.uri ∉ closed)

/-- A structure change that can be made: what is closed is there, what is opened is not unless it
is closed, nothing is opened twice, and every cell that comes in has its place in the list as the
ones before it left it. -/
structure Admits (notebook : Notebook) (opened : List (Int × Cell)) (closed : List String) :
    Prop where
  closed_mem : ∀ uri ∈ closed, uri ∈ notebook.uris
  nodup_opened : (opened.map (·.2.uri)).Nodup
  opened_new : ∀ item ∈ opened, item.2.uri ∈ notebook.uris → item.2.uri ∈ closed
  position_le : ∀ (k : Nat) (h : k < opened.length),
    0 ≤ opened[k].1 ∧ opened[k].1 ≤ (notebook.staying closed).length + k

/-- What a structure change makes of a notebook, and the cells that it gives back. -/
structure Restructures (notebook : Notebook) (opened : List (Int × Cell)) (closed : List String)
    (removed : List Cell) (changed : Notebook) : Prop where
  removed_eq : removed = notebook.cells.filter (·.uri ∈ closed)
  inserted : Inserted (notebook.staying closed) opened changed.cells
  staying_sublist : (notebook.staying closed).Sublist changed.cells
  perm : changed.cells.Perm (notebook.staying closed ++ opened.map (·.2))
  nodup_uris : changed.uris.Nodup
  version_eq : changed.version = notebook.version + 1
  others_eq : changed = { notebook with table := changed.table, version := changed.version }

variable {notebook : Notebook} {closed : List String}

theorem has_iff {uri : String} : notebook.has uri = true ↔ uri ∈ notebook.uris := by
  simp [has, cell?, uris, CellTable.get?_eq_find?]

theorem notMem_uris_staying_iff {uri : String} :
    uri ∉ (notebook.staying closed).map (·.uri) ↔ uri ∈ notebook.uris → uri ∈ closed := by
  constructor
  · intro h huri
    by_contra hclosed
    obtain ⟨cell, hcell, rfl⟩ := List.mem_map.1 huri
    exact h (List.mem_map_of_mem (List.mem_filter.2 ⟨hcell, decide_eq_true hclosed⟩))
  · intro h hmem
    obtain ⟨cell, hcell, rfl⟩ := List.mem_map.1 hmem
    obtain ⟨hcell, hclosed⟩ := List.mem_filter.1 hcell
    exact of_decide_eq_true hclosed (h (List.mem_map_of_mem hcell))

/-- Cells that stay and cells under new uris have a table. -/
theorem exists_table_of_insertAll (h : insertAll (notebook.staying closed) opened = .ok cells) :
    ∃ table : CellTable, table.ordered = cells := by
  obtain ⟨hinserted, hopened, hnew⟩ := insertAll_eq_ok_iff.1 h
  have hstaying : ((notebook.staying closed).map (·.uri)).Nodup :=
    notebook.nodup_uris.sublist (List.filter_sublist.map _)
  have hapart : ((notebook.staying closed).map (·.uri)).Disjoint (opened.map (·.2.uri)) := by
    intro uri huri hmem
    obtain ⟨item, hitem, rfl⟩ := List.mem_map.1 hmem
    exact hnew item hitem huri
  have huris : (cells.map (·.uri)).Nodup := by
    rw [(hinserted.perm.map _).nodup_iff, List.map_append, List.map_map]
    exact hstaying.append hopened hapart
  exact ⟨.ofNodup cells huris, rfl⟩

theorem insertAll_ne_repeatedCell (cells : List Cell) (opened : List (Int × Cell))
    (uri : String) : insertAll cells opened ≠ .error (.repeatedCell uri) := by
  induction opened generalizing cells with
  | nil => simp [insertAll]
  | cons item rest ih =>
    rw [insertAll]
    split
    · simp
    · split
      · simp
      · exact ih _

/-- The uris were compared before the new list is taken, so the check that it makes of its own
finds nothing. -/
theorem changeStructure_ne_repeatedCell (notebook : Notebook) (opened : List (Int × Cell))
    (closed : List String) (uri : String) :
    notebook.changeStructure opened closed ≠ .error (.repeatedCell uri) := by
  rw [changeStructure]
  cases closed.find? fun uri ↦ !notebook.has uri with
  | some unknown => simp [throw, throwThe, MonadExceptOf.throw, bind, Except.bind]
  | none =>
    have hstaying : notebook.cells.filter (fun cell ↦ !decide (cell.uri ∈ closed)) =
        notebook.staying closed := by
      simp [staying]
    simp only [List.partition_eq_filter_filter, Function.comp_def, hstaying]
    cases hinsert : insertAll (notebook.staying closed) opened with
    | error error =>
      have hother := insertAll_ne_repeatedCell (notebook.staying closed) opened uri
      simpa [hinsert, bind, Except.bind] using hother
    | ok cells =>
      obtain ⟨table, rfl⟩ := exists_table_of_insertAll hinsert
      simp [replaceCells, table.of_ordered, bind, Except.bind, pure, Except.pure]

theorem exists_changeStructure_iff :
    (∃ change, notebook.changeStructure opened closed = .ok change) ↔
      notebook.Admits opened closed := by
  constructor
  · rintro ⟨change, h⟩
    obtain ⟨hclosed, table, hinsert, -⟩ := changeStructure_eq_ok_iff.1 h
    obtain ⟨hinserted, hopened, hnew⟩ := insertAll_eq_ok_iff.1 hinsert
    constructor
    · exact fun uri huri ↦ has_iff.1 (hclosed uri huri)
    · exact hopened
    · exact fun item hitem ↦ notMem_uris_staying_iff.1 (hnew item hitem)
    · exact Cell.exists_inserted_iff.1 ⟨table.ordered, hinserted⟩
  · intro h
    obtain ⟨cells, hinserted⟩ := Cell.exists_inserted_iff.2 h.position_le
    have hinsert : insertAll (notebook.staying closed) opened = .ok cells :=
      insertAll_eq_ok_iff.2 ⟨hinserted, h.nodup_opened,
        fun item hitem ↦ notMem_uris_staying_iff.2 (h.opened_new item hitem)⟩
    obtain ⟨table, rfl⟩ := exists_table_of_insertAll hinsert
    exact ⟨_, changeStructure_eq_ok_iff.2 ⟨fun uri huri ↦ has_iff.2 (h.closed_mem uri huri),
      table, hinsert, rfl⟩⟩

theorem restructures_of_changeStructure {change : Traced (List Cell × Notebook)}
    (h : notebook.changeStructure opened closed = .ok change) :
    notebook.Restructures opened closed change.value.1 change.value.2 := by
  obtain ⟨-, table, hinsert, rfl⟩ := changeStructure_eq_ok_iff.1 h
  obtain ⟨hinserted, -, -⟩ := insertAll_eq_ok_iff.1 hinsert
  constructor
  · rfl
  · exact hinserted
  · exact hinserted.sublist
  · exact hinserted.perm
  · exact table.nodup_uris
  · rfl
  · rfl

/-- A structure change is made exactly if it can be, and then the cells that stay keep their order
and the cells that come in are at their places between them. That it is not is never found out only
when the cells of the new list are compared. -/
theorem changeStructure_restructures (notebook : Notebook) (opened : List (Int × Cell))
    (closed : List String) :
    ((∃ change, notebook.changeStructure opened closed = .ok change) ↔
      notebook.Admits opened closed) ∧
    (∀ change, notebook.changeStructure opened closed = .ok change →
      notebook.Restructures opened closed change.value.1 change.value.2) ∧
    ∀ uri, notebook.changeStructure opened closed ≠ .error (.repeatedCell uri) :=
  ⟨exists_changeStructure_iff, fun _ ↦ restructures_of_changeStructure,
    changeStructure_ne_repeatedCell notebook opened closed⟩

/-- The cell `b` comes in below the cell that is left, and `d` at the top. -/
def openedAround : List (Int × Cell) :=
  [(1, ⟨"b", ['v'], 4⟩), (0, ⟨"d", [], 0⟩)]

/-- The cell `b` leaves and comes back in one change, with another text. -/
theorem changeStructure_restructures_openedAround :
    threeCells.Admits openedAround ["b", "a", "b"] ∧
      ∃ change, threeCells.changeStructure openedAround ["b", "a", "b"] = .ok change ∧
        threeCells.Restructures openedAround ["b", "a", "b"] change.value.1 change.value.2 ∧
        change.value.1 = [⟨"a", ['x', feed], 0⟩, ⟨"b", ['y', feed, 'z', feed], 0⟩] ∧
        change.value.2.cells = [⟨"d", [], 0⟩, ⟨"c", ['w'], 0⟩, ⟨"b", ['v'], 4⟩] := by
  obtain ⟨-, hrestructures, -⟩ :=
    changeStructure_restructures threeCells openedAround ["b", "a", "b"]
  have hadmits : threeCells.Admits openedAround ["b", "a", "b"] :=
    ⟨by decide, by decide, by decide, by decide⟩
  exact ⟨hadmits, _, rfl, hrestructures _ rfl, rfl, rfl⟩

end Notebook

end CellWeave
