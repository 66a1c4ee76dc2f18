import CellWeave.Diagnostic
import CellWeave.Proofs.Mapping
/-!
# What a diagnostic takes over from its finding

A finding becomes a diagnostic if its span maps into a cell. The diagnostic takes over the rule, the
message and the severity, the fixes all of whose edits map, and of each flow the steps that map.
-/

namespace CellWeave

open List (Forall₂)

/-- What a filter leaves is what a partial function gives, item by item. -/
theorem forall₂_filter_filterMap {α β : Type} {R : α → β → Prop} {p : α → Bool}
    {f : α → Option β} (hsome : ∀ item, (f item).isSome = p item)
    (hrel : ∀ item result, f item = some result → R item result) (items : List α) :
    Forall₂ R (items.filter p) (items.filterMap f) := by
  induction items with
  | nil => exact .nil
  | cons item rest ih =>
    rw [List.filter_cons, List.filterMap_cons, ← hsome item]
    cases hitem : f item with
    | none => exact ih
    | some result => exact .cons (hrel item result hitem) ih

/-! ## Fixes -/

namespace CellFix

/-- The fix with its edits moved into cells, the edits of one cell together. -/
structure Renders (index : DocumentIndex) (fix : Fix) (shown : CellFix) : Prop where
  message_eq : shown.message = fix.message
  groups_eq : ∃ mapped, Forall₂ index.MapsEdit fix.edits mapped ∧
    shown.groups = (mapped.map (·.1)).eraseDups.map fun cell ↦
      ⟨cell, DocumentIndex.editsOf mapped cell⟩

/-- A fix is shown as `Renders` says, or not at all. -/
theorem ofFix_eq_some_iff {index : DocumentIndex} {fix : Fix} {shown : CellFix} :
    (ofFix index fix).value = some shown ↔ Renders index fix shown := by
  rw [ofFix]
  constructor
  · intro h
    split at h
    · next groups hgroups =>
      obtain rfl := Option.some.inj h
      obtain ⟨mapped, hmapped, rfl⟩ := DocumentIndex.toGroups_eq_ok_iff.1 hgroups
      exact ⟨rfl, mapped, hmapped, DocumentIndex.groupEdits_eq mapped⟩
    · simp at h
  · rintro ⟨hmessage, mapped, hmapped, hgroups⟩
    rw [← DocumentIndex.groupEdits_eq] at hgroups
    rw [DocumentIndex.toGroups_eq_ok_iff.2 ⟨mapped, hmapped, hgroups⟩, ← hmessage]

/-- A fix is shown if all of its edits can be placed. -/
theorem isSome_ofFix (index : DocumentIndex) (fix : Fix) :
    (ofFix index fix).value.isSome = fix.edits.all fun edit ↦ index.maps edit.span := by
  rw [Bool.eq_iff_iff, List.all_eq_true, ← DocumentIndex.exists_forall₂_mapsEdit,
    Option.isSome_iff_exists]
  constructor
  · rintro ⟨shown, hshown⟩
    obtain ⟨-, mapped, hmapped, -⟩ := ofFix_eq_some_iff.1 hshown
    exact ⟨mapped, hmapped⟩
  · rintro ⟨mapped, hmapped⟩
    exact ⟨⟨fix.message, _⟩, ofFix_eq_some_iff.2 ⟨rfl, mapped, hmapped, rfl⟩⟩

end CellFix

/-! ## Flows -/

namespace CellFlowStep

structure Renders (index : DocumentIndex) (step : FlowStep) (shown : CellFlowStep) : Prop where
  mapsTo : index.MapsTo step.span ⟨shown.cell, shown.span⟩
  message_eq : shown.message = step.message

variable {index : DocumentIndex}

theorem renders_of_ofStep {step : FlowStep} {shown : CellFlowStep}
    (h : (ofStep index step).value = some shown) : Renders index step shown := by
  rw [ofStep] at h
  split at h
  · next placed hplaced =>
    obtain rfl := Option.some.inj h
    exact ⟨DocumentIndex.toCellSpan_eq_ok_iff.1 hplaced, rfl⟩
  · simp at h

theorem isSome_ofStep (step : FlowStep) :
    (ofStep index step).value.isSome = index.maps step.span := by
  rw [ofStep, DocumentIndex.maps]
  split
  · next placed hplaced =>
    rw [(DocumentIndex.toCellSpan_eq_ok_iff.1 hplaced).cellOf?_eq]
    rfl
  · next error herror =>
    rw [DocumentIndex.cellOf?_eq_none_of_error herror]
    rfl

/-- Of a flow, the steps that can be placed are shown in their order. -/
theorem forall₂_renders_ofFlow (flow : List FlowStep) :
    Forall₂ (Renders index) (flow.filter fun step ↦ index.maps step.span)
      (ofFlow index flow).value := by
  rw [ofFlow, Traced.each, List.filterMap_map, Function.id_comp]
  exact forall₂_filter_filterMap isSome_ofStep (fun _ _ ↦ renders_of_ofStep) flow

end CellFlowStep

/-! ## Findings -/

namespace Finding

/-- The cell that the diagnostic of a finding is for, if there is one. -/
def cell? (index : DocumentIndex) (finding : Finding) : Option String :=
  finding.span.bind index.cellOf?

/-- The finding has no place in any single cell. -/
inductive Unplaced (index : DocumentIndex) (finding : Finding) : Prop where
  | noSpan (hspan : finding.span = none)
  | unindexed {span : Span} (hspan : finding.span = some span)
    (hend : index.line? span.start.line = none ∨ index.line? span.stop.line = none)
  | acrossCells {span : Span} {first last : LocalLine} (hspan : finding.span = some span)
    (hfirst : index.line? span.start.line = some first)
    (hlast : index.line? span.stop.line = some last) (hcells : first.cell ≠ last.cell)

theorem cell?_eq_none_iff {index : DocumentIndex} {finding : Finding} :
    finding.cell? index = none ↔ finding.Unplaced index := by
  constructor
  · intro h
    cases hspan : finding.span with
    | none => exact .noSpan hspan
    | some span =>
      rw [cell?, hspan, Option.bind_some] at h
      cases hfirst : index.line? span.start.line with
      | none => exact .unindexed hspan (.inl hfirst)
      | some first =>
        cases hlast : index.line? span.stop.line with
        | none => exact .unindexed hspan (.inr hlast)
        | some last =>
          refine .acrossCells hspan hfirst hlast fun hcells ↦ ?_
          simp [DocumentIndex.cellOf?, DocumentIndex.owner, hfirst, hlast, hcells] at h
  · intro h
    cases h with
    | noSpan hspan => rw [cell?, hspan, Option.bind_none]
    | unindexed hspan hend =>
      rcases hend with hend | hend <;>
        simp [cell?, hspan, DocumentIndex.cellOf?, DocumentIndex.owner, hend]
    | acrossCells hspan hfirst hlast hcells =>
      simp [cell?, hspan, DocumentIndex.cellOf?, DocumentIndex.owner, hfirst, hlast,
        Ne.symm hcells]

end Finding

namespace Diagnostic

structure Renders (index : DocumentIndex) (finding : Finding) (shown : Diagnostic) : Prop where
  mapsTo : ∃ span, finding.span = some span ∧ index.MapsTo span ⟨shown.cell, shown.span⟩
  rule_eq : shown.rule = finding.rule
  message_eq : shown.message = finding.message
  severity_eq : shown.severity = finding.severity
  fixes : Forall₂ (CellFix.Renders index)
    (finding.fixes.filter fun fix ↦ fix.edits.all fun edit ↦ index.maps edit.span) shown.fixes
  flows : Forall₂
    (fun flow ↦ Forall₂ (CellFlowStep.Renders index) (flow.filter fun step ↦ index.maps step.span))
    finding.flows shown.flows

variable {index : DocumentIndex}

/-- What a finding is shown as renders it. -/
theorem renders_of_ofFinding {finding : Finding} {shown : Diagnostic}
    (h : (ofFinding index finding).value = some shown) : Renders index finding shown := by
  rw [ofFinding] at h
  split at h
  · simp at h
  · next span hspan =>
    split at h
    · simp at h
    · next placed hplaced =>
      obtain rfl := Option.some.inj h
      refine ⟨⟨span, hspan, DocumentIndex.toCellSpan_eq_ok_iff.1 hplaced⟩, rfl, rfl, rfl, ?_, ?_⟩
      · dsimp only [Traced.each]
        rw [List.filterMap_map, Function.id_comp]
        exact forall₂_filter_filterMap (CellFix.isSome_ofFix index)
          (fun _ _ ↦ CellFix.ofFix_eq_some_iff.1) finding.fixes
      · dsimp only [Traced.each]
        rw [List.forall₂_map_right_iff, List.forall₂_same]
        exact fun flow _ ↦ CellFlowStep.forall₂_renders_ofFlow flow

theorem map_cell_ofFinding (finding : Finding) :
    (ofFinding index finding).value.map (·.cell) = finding.cell? index := by
  rw [ofFinding, Finding.cell?]
  cases finding.span with
  | none => rfl
  | some span =>
    rw [Option.bind_some]
    dsimp only
    split
    · next error herror =>
      rw [DocumentIndex.cellOf?_eq_none_of_error herror]
      rfl
    · next placed hplaced =>
      rw [(DocumentIndex.toCellSpan_eq_ok_iff.1 hplaced).cellOf?_eq]
      rfl

end Diagnostic

end CellWeave
