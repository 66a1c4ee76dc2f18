import CellWeave.Proofs.Batch
import CellWeave.Proofs.Groups
/-!
# Mapping into cells

A span maps into a cell if the lines of both its ends show that cell, and is then counted in the
lines of the cell. Edits are mapped as their spans are, all of them or none.
-/

namespace CellWeave

open List (Forall₂)

namespace DocumentIndex

/-! ## Spans -/

/-- The cell that the lines of both ends show, if it is one. -/
def cellOf? (index : DocumentIndex) (span : Span) : Option String :=
  (index.owner span.start.line).filter fun cell ↦ index.owner span.stop.line = some cell

def maps (index : DocumentIndex) (span : Span) : Bool :=
  (index.cellOf? span).isSome

/-- `placed` has the ends of `span`, each on the line of the cell that its line shows. -/
def MapsTo (index : DocumentIndex) (span : Span) (placed : CellSpan) : Prop :=
  ∃ first last : Nat, index.line? span.start.line = some ⟨placed.cell, first⟩ ∧
    index.line? span.stop.line = some ⟨placed.cell, last⟩ ∧
    placed.span = .of first span.start.column last span.stop.column

variable {index : DocumentIndex} {span : Span} {placed : CellSpan}

theorem MapsTo.cellOf?_eq (h : index.MapsTo span placed) :
    index.cellOf? span = some placed.cell := by
  obtain ⟨first, last, hfirst, hlast, -⟩ := h
  simp [cellOf?, owner, hfirst, hlast]

/-- A span is in a cell if its first and its last line are. -/
theorem cellOf?_eq_some_iff {cell : String} : index.cellOf? span = some cell ↔
    index.owner span.start.line = some cell ∧ index.owner span.stop.line = some cell := by
  rw [cellOf?, Option.filter_eq_some_iff, decide_eq_true_eq]

theorem exists_mapsTo_of_cellOf? {cell : String} (h : index.cellOf? span = some cell) :
    ∃ placed, index.MapsTo span placed ∧ placed.cell = cell := by
  obtain ⟨hstart, hstop⟩ := cellOf?_eq_some_iff.1 h
  obtain ⟨first, hfirst, rfl⟩ := Option.map_eq_some_iff.1 hstart
  obtain ⟨last, hlast, hcell⟩ := Option.map_eq_some_iff.1 hstop
  refine ⟨⟨first.cell, .of first.line span.start.column last.line span.stop.column⟩, ?_, rfl⟩
  refine ⟨first.line, last.line, hfirst, ?_, rfl⟩
  rw [hlast, ← hcell]

theorem locate_eq_ok_iff {line : Int} {entry : LocalLine} :
    index.locate line = .ok entry ↔ index.line? line = some entry := by
  rw [locate]
  cases index.line? line <;> simp

/-- A span is placed as `MapsTo` says, or not at all. -/
theorem toCellSpan_eq_ok_iff : index.toCellSpan span = .ok placed ↔ index.MapsTo span placed := by
  simp only [toCellSpan, bind_eq_ok_iff, locate_eq_ok_iff]
  constructor
  · rintro ⟨first, hfirst, last, hlast, h⟩
    split at h
    · next hcell =>
      obtain rfl := Except.ok.inj h
      refine ⟨first.line, last.line, hfirst, ?_, rfl⟩
      rw [hlast, hcell]
    · simp [throw, throwThe, MonadExceptOf.throw] at h
  · rintro ⟨first, last, hfirst, hlast, hspan⟩
    obtain ⟨cell, moved⟩ := placed
    obtain rfl : moved = _ := hspan
    exact ⟨_, hfirst, _, hlast, if_pos rfl⟩

theorem exists_toCellSpan_iff :
    (∃ placed, index.toCellSpan span = .ok placed) ↔ ∃ cell, index.cellOf? span = some cell := by
  simp only [toCellSpan_eq_ok_iff]
  constructor
  · rintro ⟨placed, hplaced⟩
    exact ⟨_, hplaced.cellOf?_eq⟩
  · rintro ⟨cell, hcell⟩
    obtain ⟨placed, hplaced, -⟩ := exists_mapsTo_of_cellOf? hcell
    exact ⟨placed, hplaced⟩

/-- Whether a span is moved depends on its cell alone. -/
theorem cellOf?_eq_none_of_error {error : MappingError} (h : index.toCellSpan span = .error error) :
    index.cellOf? span = none := by
  by_contra hsome
  obtain ⟨cell, hcell⟩ := Option.ne_none_iff_exists'.1 hsome
  obtain ⟨placed, hplaced, -⟩ := exists_mapsTo_of_cellOf? hcell
  rw [toCellSpan_eq_ok_iff.2 hplaced] at h
  simp at h

/-! ## Edits -/

/-- The edit is made in the cell that its span maps into, with the same replacement. -/
def MapsEdit (index : DocumentIndex) (edit : Edit) (item : String × Edit) : Prop :=
  index.MapsTo edit.span ⟨item.1, item.2.span⟩ ∧ item.2.replacement = edit.replacement

/-- An edit is placed where its span is. -/
theorem toCellEdit_eq_ok_iff {edit : Edit} {item : String × Edit} :
    index.toCellEdit edit = .ok item ↔ index.MapsEdit edit item := by
  simp only [toCellEdit, bind_eq_ok_iff, toCellSpan_eq_ok_iff]
  constructor
  · rintro ⟨placed, hplaced, h⟩
    obtain rfl := Except.ok.inj h
    exact ⟨hplaced, rfl⟩
  · rintro ⟨hplaced, hreplacement⟩
    refine ⟨_, hplaced, ?_⟩
    rw [← hreplacement]
    rfl

theorem MapsEdit.cellOf?_eq {edit : Edit} {item : String × Edit} (h : index.MapsEdit edit item) :
    index.cellOf? edit.span = some item.1 :=
  h.1.cellOf?_eq

/-- An edit has one place in the cells. -/
theorem MapsEdit.unique {edit : Edit} {item other : String × Edit} (h : index.MapsEdit edit item)
    (h' : index.MapsEdit edit other) : item = other :=
  Except.ok.inj ((toCellEdit_eq_ok_iff.2 h).symm.trans (toCellEdit_eq_ok_iff.2 h'))

/-- Edits are grouped if all of them can be placed. -/
theorem toGroups_eq_ok_iff {edits : List Edit} {groups : List EditGroup} :
    index.toGroups edits = .ok groups ↔
      ∃ mapped, Forall₂ index.MapsEdit edits mapped ∧ groups = groupEdits mapped := by
  simp only [toGroups, bind_eq_ok_iff, mapM_eq_ok_iff, toCellEdit_eq_ok_iff]
  constructor
  · rintro ⟨mapped, hmapped, h⟩
    exact ⟨mapped, hmapped, (Except.ok.inj h).symm⟩
  · rintro ⟨mapped, hmapped, rfl⟩
    exact ⟨mapped, hmapped, rfl⟩

theorem exists_forall₂_mapsEdit {edits : List Edit} :
    (∃ mapped, Forall₂ index.MapsEdit edits mapped) ↔ ∀ edit ∈ edits, index.maps edit.span := by
  induction edits with
  | nil => simp
  | cons edit rest ih =>
    rw [List.forall_mem_cons, ← ih, maps, Option.isSome_iff_exists]
    constructor
    · rintro ⟨_, hmapped⟩
      cases hmapped with
      | cons hedit hrest => exact ⟨⟨_, hedit.cellOf?_eq⟩, _, hrest⟩
    · rintro ⟨⟨cell, hcell⟩, mapped, hrest⟩
      obtain ⟨placed, hplaced, -⟩ := exists_mapsTo_of_cellOf? hcell
      exact ⟨(placed.cell, ⟨placed.span, edit.replacement⟩) :: mapped, .cons ⟨hplaced, rfl⟩ hrest⟩

end DocumentIndex

end CellWeave
