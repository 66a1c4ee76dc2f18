import CellWeave.Proofs.CellEdits
import Mathlib.Algebra.BigOperators.Group.List.Lemmas
import Mathlib.Algebra.Ring.Nat
/-!
# Splitting a fix by cell

A fix comes apart into groups of edits if each of its edits maps into a cell, and is turned down for
the first one that does not. The groups then are the edits of the fix, sorted by their cells.
-/

namespace CellWeave

open List (Forall₂)

namespace DocumentIndex

variable {index : DocumentIndex} {edits : List Edit} {mapped : List (String × Edit)}
  {groups : List EditGroup} {edit : Edit} {item : String × Edit} {cell : String}

/-! ## Edits and the cells they land in -/

theorem filterMap_cellOf? (h : Forall₂ index.MapsEdit edits mapped) :
    (edits.filterMap fun edit ↦ index.cellOf? edit.span) = mapped.map (·.1) := by
  induction h with
  | nil => rfl
  | cons hedit _ ih => rw [List.filterMap_cons, hedit.cellOf?_eq, ih, List.map_cons]

/-- What lands in a cell is what maps into it, edit by edit. -/
theorem forall₂_editsOf (h : Forall₂ index.MapsEdit edits mapped) (cell : String) :
    Forall₂ (fun edit moved ↦ index.MapsEdit edit (cell, moved))
      (edits.filter fun edit ↦ index.cellOf? edit.span = some cell) (editsOf mapped cell) := by
  induction h with
  | nil => exact .nil
  | @cons edit item edits mapped hedit _ ih =>
    simp only [editsOf, List.filter_cons, hedit.cellOf?_eq, Option.some_inj, decide_eq_true_eq]
    split
    · next hcell =>
      subst hcell
      exact .cons hedit ih
    · exact ih

theorem mem_of_mapsEdit (h : Forall₂ index.MapsEdit edits mapped) (hedit : edit ∈ edits)
    (hitem : index.MapsEdit edit item) : item ∈ mapped := by
  induction h with
  | nil => exact absurd hedit List.not_mem_nil
  | cons hfirst _ ih =>
    rcases List.mem_cons.1 hedit with rfl | hrest
    · rw [hitem.unique hfirst]
      exact List.mem_cons_self
    · exact List.mem_cons_of_mem _ (ih hrest)

/-! ## The sizes of the groups -/

/-- A cell has as many edits as were mapped into it. -/
theorem length_editsOf (mapped : List (String × Edit)) (cell : String) :
    (editsOf mapped cell).length = (mapped.map (·.1)).count cell := by
  rw [editsOf, List.length_map, List.count, List.countP_map, List.countP_eq_length_filter]
  rfl

theorem eraseDups_perm_dedup (names : List String) : names.eraseDups.Perm names.dedup := by
  rw [List.perm_ext_iff_of_nodup (nodup_eraseDups names) names.nodup_dedup]
  intro name
  rw [List.mem_eraseDups, List.mem_dedup]

/-- Each edit is in one group. -/
theorem sum_length_groupEdits (mapped : List (String × Edit)) :
    ((groupEdits mapped).map (·.edits.length)).sum = mapped.length := by
  rw [groupEdits_eq, List.map_map]
  calc ((mapped.map (·.1)).eraseDups.map fun cell ↦ (editsOf mapped cell).length).sum
      = ((mapped.map (·.1)).eraseDups.map fun cell ↦ (mapped.map (·.1)).count cell).sum := by
        simp only [length_editsOf]
    _ = ((mapped.map (·.1)).dedup.map fun cell ↦ (mapped.map (·.1)).count cell).sum :=
        ((eraseDups_perm_dedup _).map _).sum_eq
    _ = mapped.length := by
        rw [List.sum_map_count_dedup_eq_length, List.length_map]

/-! ## The groups of a fix -/

/-- The edits sorted by their cells, each of them in its cell, with the replacement it had. -/
structure Splits (index : DocumentIndex) (edits : List Edit) (groups : List EditGroup) : Prop where
  cells_eq : groups.map (·.cell) =
    (edits.filterMap fun edit ↦ index.cellOf? edit.span).eraseDups
  nodup_cells : (groups.map (·.cell)).Nodup
  ne_nil : ∀ group ∈ groups, group.edits ≠ []
  moved : ∀ group ∈ groups, Forall₂
    (fun edit moved ↦ index.toCellSpan edit.span = .ok ⟨group.cell, moved.span⟩ ∧
      moved.replacement = edit.replacement)
    (edits.filter fun edit ↦ index.cellOf? edit.span = some group.cell) group.edits
  length_eq : (groups.map (·.edits.length)).sum = edits.length

theorem splits_of_toGroups (h : index.toGroups edits = .ok groups) :
    index.Splits edits groups := by
  obtain ⟨mapped, hmapped, rfl⟩ := toGroups_eq_ok_iff.1 h
  constructor
  · rw [map_cell_groupEdits, filterMap_cellOf? hmapped]
  · rw [map_cell_groupEdits]
    exact nodup_eraseDups _
  · intro group hgroup
    obtain ⟨hcell, hedits⟩ := mem_groupEdits.1 hgroup
    rw [hedits]
    exact fun hnil ↦ editsOf_eq_nil_iff.1 hnil hcell
  · intro group hgroup
    rw [(mem_groupEdits.1 hgroup).2]
    exact (forall₂_editsOf hmapped group.cell).imp fun edit moved hmoved ↦
      ⟨toCellSpan_eq_ok_iff.2 hmoved.1, hmoved.2⟩
  · rw [sum_length_groupEdits, hmapped.length_eq]

theorem exists_toCellEdit_iff :
    (∃ item, index.toCellEdit edit = .ok item) ↔
      ∃ placed, index.toCellSpan edit.span = .ok placed := by
  rw [toCellEdit]
  cases index.toCellSpan edit.span <;> simp [bind, Except.bind, pure, Except.pure]

theorem toCellEdit_eq_error_iff {error : MappingError} :
    index.toCellEdit edit = .error error ↔ index.toCellSpan edit.span = .error error := by
  rw [toCellEdit]
  cases index.toCellSpan edit.span <;> simp [bind, Except.bind, pure, Except.pure]

theorem exists_toGroups_iff : (∃ groups, index.toGroups edits = .ok groups) ↔
    ∀ edit ∈ edits, ∃ placed, index.toCellSpan edit.span = .ok placed := by
  have hmaps : (∀ edit ∈ edits, ∃ placed, index.toCellSpan edit.span = .ok placed) ↔
      ∀ edit ∈ edits, index.maps edit.span := by
    simp only [exists_toCellSpan_iff, maps, Option.isSome_iff_exists]
  rw [hmaps, ← exists_forall₂_mapsEdit]
  constructor
  · rintro ⟨groups, hgroups⟩
    obtain ⟨mapped, hmapped, -⟩ := toGroups_eq_ok_iff.1 hgroups
    exact ⟨mapped, hmapped⟩
  · rintro ⟨mapped, hmapped⟩
    exact ⟨_, toGroups_eq_ok_iff.2 ⟨mapped, hmapped, rfl⟩⟩

/-- The first edit that does not map gives the error. -/
theorem toGroups_eq_error_iff {error : MappingError} : index.toGroups edits = .error error ↔
    ∃ before edit after, edits = before ++ edit :: after ∧
      (∀ other ∈ before, ∃ placed, index.toCellSpan other.span = .ok placed) ∧
        index.toCellSpan edit.span = .error error := by
  have hmapM : index.toGroups edits = .error error ↔
      edits.mapM index.toCellEdit = .error error := by
    rw [toGroups]
    cases edits.mapM index.toCellEdit <;> simp [bind, Except.bind, pure, Except.pure]
  simp only [hmapM, mapM_eq_error_iff, exists_toCellEdit_iff, toCellEdit_eq_error_iff]

/-- A fix is split by cell if each of its edits maps, and else turned down for the first that does
not. -/
theorem toGroups_splits (index : DocumentIndex) (edits : List Edit) :
    ((∃ groups, index.toGroups edits = .ok groups) ↔
      ∀ edit ∈ edits, ∃ placed, index.toCellSpan edit.span = .ok placed) ∧
    (∀ error, index.toGroups edits = .error error ↔
      ∃ before edit after, edits = before ++ edit :: after ∧
        (∀ other ∈ before, ∃ placed, index.toCellSpan other.span = .ok placed) ∧
          index.toCellSpan edit.span = .error error) ∧
    ∀ groups, index.toGroups edits = .ok groups → index.Splits edits groups :=
  ⟨exists_toGroups_iff, fun _ ↦ toGroups_eq_error_iff, fun _ ↦ splits_of_toGroups⟩

/-- Edits of two cells by turns, two of the one with an edit of the other between them. -/
def alternatingFix : List Edit :=
  [⟨.of 4 0 4 1, ['p']⟩, ⟨.of 1 0 1 1, ['q']⟩, ⟨.of 3 0 3 0, ['r']⟩]

def alternatingGroups : List EditGroup :=
  [⟨"b", [⟨.of 2 0 2 1, ['p']⟩, ⟨.of 1 0 1 0, ['r']⟩]⟩, ⟨"a", [⟨.of 1 0 1 1, ['q']⟩]⟩]

/-- Edits of two cells in turn come to two groups, each in their order. -/
theorem toGroups_splits_alternatingFix :
    Notebook.threeCells.index.toGroups alternatingFix = .ok alternatingGroups ∧
      Notebook.threeCells.index.Splits alternatingFix alternatingGroups ∧
      Notebook.threeCells.index.toGroups (alternatingFix ++ [⟨.of 4 0 6 0, []⟩]) =
        .error (.acrossCells (.of 4 0 6 0) "b" "c") := by
  have hgroups : Notebook.threeCells.index.toGroups alternatingFix = .ok alternatingGroups := by
    decide
  obtain ⟨hsome, -, hsplits⟩ := toGroups_splits Notebook.threeCells.index alternatingFix
  obtain ⟨-, herror, -⟩ :=
    toGroups_splits Notebook.threeCells.index (alternatingFix ++ [⟨.of 4 0 6 0, []⟩])
  refine ⟨hgroups, hsplits _ hgroups, (herror _).2 ⟨alternatingFix, _, [], rfl, ?_, by decide⟩⟩
  exact hsome.1 ⟨_, hgroups⟩

end DocumentIndex

end CellWeave
