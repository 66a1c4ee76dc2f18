import CellWeave.Proofs.Batch
import CellWeave.Proofs.Places
import CellWeave.SyncError
/-!
# Accepted batches

An edit is valid if it is forward and both its ends are places of the text, and two edits can be
made together if they begin at different places and one ends no later than the other begins. A
batch is accepted exactly if its edits are valid and every two of them can be made together, though
only neighbours in the sorted batch are compared, and by offset. It is turned down for the first
edit in it that is not valid, or else for two that cannot be made together.
-/

namespace CellWeave

namespace Edit

/-! ## One edit -/

/-- The edit can be made by itself. -/
structure Valid (text : Text) (edit : Edit) : Prop where
  forward : edit.span.start ≤ edit.span.stop
  has_start : text.Has edit.span.start
  has_stop : text.Has edit.span.stop

instance (text : Text) (edit : Edit) : Decidable (edit.Valid text) :=
  decidable_of_iff (edit.span.start ≤ edit.span.stop ∧ text.Has edit.span.start ∧
    text.Has edit.span.stop) ⟨fun h ↦ ⟨h.1, h.2.1, h.2.2⟩, fun h ↦ ⟨h.1, h.2, h.3⟩⟩

/-- Why an edit cannot be made: it is reversed, or else its start, or else its stop is no place of
the text. -/
inductive Refused (text : Text) (edit : Edit) : EditError → Prop where
  | reversed (h : edit.span.stop < edit.span.start) : Refused text edit (.reversed edit.span)
  | start {fault : PositionFault} (hforward : edit.span.start ≤ edit.span.stop)
      (h : text.Lacks edit.span.start fault) : Refused text edit (.outside .start fault)
  | stop {fault : PositionFault} (hforward : edit.span.start ≤ edit.span.stop)
      (hstart : text.Has edit.span.start) (h : text.Lacks edit.span.stop fault) :
      Refused text edit (.outside .stop fault)

variable {text : Text} {edit first second : Edit} {edits : List Edit}

theorem Refused.kind_eq {error : EditError} (h : edit.Refused text error) :
    error.kind = .invalidEdit := by
  cases h <;> rfl

theorem locate_eq_error_iff (text : Text) (side : Side) (p : Position) (error : EditError) :
    locate text side p = .error error ↔
      ∃ fault, text.Lacks p fault ∧ error = .outside side fault := by
  simp only [← Text.offset_eq_error_iff, locate]
  cases text.offset p <;> simp [eq_comm]

theorem exists_locate_iff (text : Text) (side : Side) (p : Position) :
    (∃ o, locate text side p = .ok o) ↔ text.Has p := by
  simp only [← Text.exists_offset_iff, locate]
  cases text.offset p <;> simp

theorem exists_place_iff (text : Text) (edit : Edit) :
    (∃ item, place text edit = .ok item) ↔ edit.Valid text := by
  constructor
  · rintro ⟨item, hitem⟩
    obtain ⟨rfl, hfits⟩ := (place_eq_ok_iff _ _ _).1 hitem
    refine ⟨?_, ?_, ?_⟩
    · rw [← hfits.start_position, ← hfits.stop_position, ← Position.not_lt,
        text.positionAt_lt_iff hfits.stop_le hfits.start_le, Nat.not_lt]
      exact hfits.start_le_stop
    · exact (exists_locate_iff text .start _).1
        ⟨_, (locate_eq_ok_iff _ _ _ _).2 ⟨hfits.start_le, hfits.start_position⟩⟩
    · exact (exists_locate_iff text .stop _).1
        ⟨_, (locate_eq_ok_iff _ _ _ _).2 ⟨hfits.stop_le, hfits.stop_position⟩⟩
  · rintro ⟨hforward, hstart, hstop⟩
    obtain ⟨start, hstart⟩ := (exists_locate_iff text .start _).2 hstart
    obtain ⟨stop, hstop⟩ := (exists_locate_iff text .stop _).2 hstop
    refine ⟨⟨start, stop, edit⟩, ?_⟩
    rw [place, if_neg (Position.not_lt.2 hforward), hstart, hstop]
    rfl

/-- An edit is refused exactly for the fault that `Refused` names. -/
theorem place_eq_error_iff (text : Text) (edit : Edit) (error : EditError) :
    place text edit = .error error ↔ edit.Refused text error := by
  unfold place
  split
  · next hreversed =>
    rw [Except.error.injEq]
    constructor
    · rintro rfl
      exact .reversed hreversed
    · intro h
      cases h with
      | reversed => rfl
      | start hforward => exact absurd hreversed (Position.not_lt.2 hforward)
      | stop hforward => exact absurd hreversed (Position.not_lt.2 hforward)
  · next hforward =>
    have hforward := Position.not_lt.1 hforward
    cases hstart : locate text .start edit.span.start with
    | error e =>
      obtain ⟨fault, hfault, rfl⟩ := (locate_eq_error_iff _ _ _ _).1 hstart
      have hnot := Text.not_has_of_lacks hfault
      simp only [bind, Except.bind, Except.error.injEq]
      constructor
      · rintro rfl
        exact .start hforward hfault
      · intro h
        cases h with
        | reversed h => exact absurd h (Position.not_lt.2 hforward)
        | start _ h =>
          have := (locate_eq_error_iff text .start _ _).2 ⟨_, h, rfl⟩
          exact Except.error.inj (hstart.symm.trans this)
        | stop _ h => exact absurd h hnot
    | ok start =>
      have hhas := (exists_locate_iff text .start _).1 ⟨start, hstart⟩
      have hstop : (do let stop ← locate text .stop edit.span.stop; pure ⟨start, stop, edit⟩) =
          Except.error (α := PlacedEdit) error ↔
            locate text .stop edit.span.stop = .error error := by
        cases locate text .stop edit.span.stop <;> simp [bind, Except.bind, pure, Except.pure]
      simp only [bind, Except.bind] at hstop ⊢
      rw [hstop, locate_eq_error_iff]
      constructor
      · rintro ⟨fault, hfault, rfl⟩
        exact .stop hforward hhas hfault
      · intro h
        cases h with
        | reversed h => exact absurd h (Position.not_lt.2 hforward)
        | start _ h => exact absurd hhas (Text.not_has_of_lacks h)
        | stop _ _ h => exact ⟨_, h, rfl⟩

/-! ## Two edits -/

/-- Both edits can be made together: they begin at different places, and one of them ends no later
than the other begins. -/
def Compatible (first second : Edit) : Prop :=
  first.span.start ≠ second.span.start ∧
    (first.span.stop ≤ second.span.start ∨ second.span.stop ≤ first.span.start)

instance (first second : Edit) : Decidable (first.Compatible second) :=
  inferInstanceAs (Decidable (_ ∧ _))

theorem Compatible.symm (h : first.Compatible second) : second.Compatible first :=
  ⟨h.1.symm, h.2.symm⟩

end Edit

namespace PlacedEdit

open Edit (Compatible)

variable {text : Text} {first second : PlacedEdit} {items : List PlacedEdit}

/-- Offsets of two edits compare as their positions do. -/
theorem compatible_iff (hfirst : first.Fits text) (hsecond : second.Fits text) :
    first.edit.Compatible second.edit ↔ first.start ≠ second.start ∧
      (first.stop ≤ second.start ∨ second.stop ≤ first.start) := by
  rw [Compatible, ← hfirst.start_position, ← hfirst.stop_position, ← hsecond.start_position,
    ← hsecond.stop_position, ne_eq, text.positionAt_inj hfirst.start_le hsecond.start_le,
    text.positionAt_le_iff hfirst.stop_le hsecond.start_le,
    text.positionAt_le_iff hsecond.stop_le hfirst.start_le]

/-- Neighbours that clash are not compatible. -/
theorem not_compatible_of_clashes (hfirst : first.Fits text) (hsecond : second.Fits text)
    (hprecedes : first.precedes second) (h : first.clashes second) :
    ¬ first.edit.Compatible second.edit := by
  have hforward := hsecond.start_le_stop
  simp only [clashes, Bool.or_eq_true, decide_eq_true_eq, beq_iff_eq] at h
  rw [precedes_iff] at hprecedes
  rw [compatible_iff hfirst hsecond]
  omega

/-- Placed edits in order are apart exactly if the edits are compatible. -/
theorem pairwise_apart_iff (hsorted : items.Pairwise (precedes · ·))
    (hfits : ∀ item ∈ items, item.Fits text) :
    items.Pairwise Apart ↔ (items.map (·.edit)).Pairwise Compatible := by
  rw [List.pairwise_map]
  constructor
  · intro h
    refine h.imp_of_mem fun hfirst hsecond hapart ↦ ?_
    rw [compatible_iff (hfits _ hfirst) (hfits _ hsecond)]
    exact ⟨Nat.ne_of_lt hapart.1, .inl hapart.2⟩
  · intro h
    refine (h.and hsorted).imp_of_mem fun {a b} ha hb ⟨hcompatible, hprecedes⟩ ↦ ?_
    have hforward := (hfits b hb).start_le_stop
    rw [compatible_iff (hfits a ha) (hfits b hb)] at hcompatible
    rw [precedes_iff] at hprecedes
    simp only [Apart]
    omega

theorem exists_of_firstClash? (h : firstClash? items = some (first, second)) :
    ∃ front back, items = front ++ first :: second :: back ∧ first.clashes second := by
  induction items with
  | nil => exact absurd h nofun
  | cons item rest ih =>
    cases rest with
    | nil => exact absurd h nofun
    | cons next rest =>
      rw [firstClash?] at h
      split at h
      · next hclash =>
        obtain ⟨rfl, rfl⟩ := Prod.mk.inj (Option.some.inj h)
        exact ⟨[], rest, rfl, hclash⟩
      · obtain ⟨front, back, hrest, hclash⟩ := ih h
        exact ⟨item :: front, back, by rw [hrest, List.cons_append], hclash⟩

end PlacedEdit

namespace Edit

open PlacedEdit (Fits Apart)

variable {text : Text} {edits : List Edit}

/-! ## Batches -/

theorem exists_mapM_place_iff (text : Text) (edits : List Edit) :
    (∃ placed, edits.mapM (place text) = .ok placed) ↔ ∀ edit ∈ edits, edit.Valid text := by
  constructor
  · rintro ⟨placed, hplaced⟩ edit hedit
    obtain ⟨rfl, hfits⟩ := (mapM_place_eq_ok_iff _ _ _).1 hplaced
    obtain ⟨item, hitem, rfl⟩ := List.mem_map.1 hedit
    exact (exists_place_iff _ _).1 ⟨item, (place_eq_ok_iff _ _ _).2 ⟨rfl, hfits item hitem⟩⟩
  · intro h
    cases hplaced : edits.mapM (place text) with
    | ok placed => exact ⟨placed, rfl⟩
    | error error =>
      obtain ⟨front, edit, back, rfl, -, hedit⟩ := (mapM_eq_error_iff _ _ _).1 hplaced
      obtain ⟨item, hitem⟩ := (exists_place_iff _ _).2 (h edit (by simp))
      exact absurd (hitem.symm.trans hedit) nofun

/-- Valid edits are sorted, and then accepted, or else turned down for two neighbours. -/
theorem placeAll_of_valid (h : ∀ edit ∈ edits, edit.Valid text) :
    ∃ items : List PlacedEdit, (items.map (·.edit)).Perm edits ∧ (∀ item ∈ items, item.Fits text) ∧
      items.Pairwise (PlacedEdit.precedes · ·) ∧
      placeAll text edits = match PlacedEdit.firstClash? items with
        | some (first, second) => .error (.overlap first.edit.span second.edit.span)
        | none => .ok items := by
  obtain ⟨placed, hplaced⟩ := (exists_mapM_place_iff _ _).2 h
  obtain ⟨hedits, hfits⟩ := (mapM_place_eq_ok_iff _ _ _).1 hplaced
  have hperm := List.mergeSort_perm placed PlacedEdit.precedes
  refine ⟨placed.mergeSort PlacedEdit.precedes, ?_, ?_, ?_, ?_⟩
  · rw [← hedits]
    exact hperm.map _
  · exact fun item hitem ↦ hfits item (hperm.mem_iff.1 hitem)
  · exact List.pairwise_mergeSort PlacedEdit.precedes_trans PlacedEdit.precedes_total placed
  · rw [placeAll, hplaced]
    rfl

/-- A batch fails for the first edit that is refused, or else for an overlap. -/
theorem applyAll_eq_error_iff {error : EditError} :
    applyAll text edits = .error error ↔ placeAll text edits = .error error := by
  rw [applyAll]
  cases placeAll text edits <;> simp [bind, Except.bind, pure, Except.pure]

theorem valid_of_applyAll {result : Text} (h : applyAll text edits = .ok result) :
    (∀ edit ∈ edits, edit.Valid text) ∧ edits.Pairwise Compatible := by
  obtain ⟨items, hitems, -⟩ := (applyAll_eq_ok_iff _ _ _).1 h
  obtain ⟨hperm, hfits, hapart⟩ := (placeAll_eq_ok_iff _ _ _).1 hitems
  constructor
  · intro edit hedit
    obtain ⟨item, hitem, rfl⟩ := List.mem_map.1 (hperm.mem_iff.2 hedit)
    exact (exists_place_iff _ _).1 ⟨item, (place_eq_ok_iff _ _ _).2 ⟨rfl, hfits item hitem⟩⟩
  · rw [← hperm.pairwise_iff Compatible.symm,
      ← PlacedEdit.pairwise_apart_iff (hapart.imp Apart.precedes) hfits]
    exact hapart

theorem exists_applyAll_of_valid (hvalid : ∀ edit ∈ edits, edit.Valid text)
    (hcompatible : edits.Pairwise Compatible) : ∃ result, applyAll text edits = .ok result := by
  obtain ⟨items, hperm, hfits, hsorted, hplace⟩ := placeAll_of_valid hvalid
  have hnone : PlacedEdit.firstClash? items = none := by
    rw [PlacedEdit.firstClash?_eq_none_iff hsorted
        fun item hitem ↦ (hfits item hitem).start_le_stop,
      PlacedEdit.pairwise_apart_iff hsorted hfits, hperm.pairwise_iff Compatible.symm]
    exact hcompatible
  rw [hnone] at hplace
  exact ⟨_, (applyAll_eq_ok_iff _ _ _).2 ⟨items, hplace, rfl⟩⟩

/-- The first edit that is not valid is found before any two are compared. -/
theorem exists_refused_of_not_valid (h : ¬ ∀ edit ∈ edits, edit.Valid text) :
    ∃ front edit back error, edits = front ++ edit :: back ∧
      (∀ other ∈ front, other.Valid text) ∧ edit.Refused text error ∧
      applyAll text edits = .error error := by
  cases hplaced : edits.mapM (place text) with
  | ok placed => exact absurd ((exists_mapM_place_iff _ _).1 ⟨placed, hplaced⟩) h
  | error error =>
    obtain ⟨front, edit, back, hedits, hfront, hedit⟩ := (mapM_eq_error_iff _ _ _).1 hplaced
    refine ⟨front, edit, back, error, hedits, ?_, (place_eq_error_iff _ _ _).1 hedit, ?_⟩
    · exact fun other hother ↦ (exists_place_iff _ _).1 (hfront other hother)
    · rw [applyAll_eq_error_iff, placeAll, hplaced]
      rfl

/-- Valid edits of which two are not compatible overlap. -/
theorem exists_overlap_of_valid (hvalid : ∀ edit ∈ edits, edit.Valid text)
    (h : ¬ edits.Pairwise Compatible) :
    ∃ first second, [first, second].Subperm edits ∧ ¬ first.Compatible second ∧
      applyAll text edits = .error (.overlap first.span second.span) := by
  obtain ⟨items, hperm, hfits, hsorted, hplace⟩ := placeAll_of_valid hvalid
  cases hclash : PlacedEdit.firstClash? items with
  | none =>
    rw [hclash] at hplace
    exact absurd (valid_of_applyAll ((applyAll_eq_ok_iff _ _ _).2 ⟨items, hplace, rfl⟩)).2 h
  | some pair =>
    obtain ⟨first, second⟩ := pair
    rw [hclash] at hplace
    obtain ⟨front, back, rfl, hclashes⟩ := PlacedEdit.exists_of_firstClash? hclash
    have hpair : [first, second].Sublist (front ++ first :: second :: back) :=
      (List.prefix_append [first, second] back).sublist.trans (List.sublist_append_right _ _)
    refine ⟨first.edit, second.edit, ?_, ?_, applyAll_eq_error_iff.2 hplace⟩
    · exact (hpair.map _).subperm.trans hperm.subperm
    · obtain ⟨-, hrest, -⟩ := List.pairwise_append.1 hsorted
      exact PlacedEdit.not_compatible_of_clashes (hfits first (by simp)) (hfits second (by simp))
        ((List.pairwise_cons.1 hrest).1 second List.mem_cons_self) hclashes

/-- A batch is accepted exactly if its edits are valid and every two of them are compatible.
Otherwise the error is that of the first edit that is not valid, or, if all are, names two that are
not compatible. -/
theorem applyAll_accepts_iff (text : Text) (edits : List Edit) :
    ((∃ result, applyAll text edits = .ok result) ↔
      (∀ edit ∈ edits, edit.Valid text) ∧ edits.Pairwise Compatible) ∧
    ((¬ ∀ edit ∈ edits, edit.Valid text) →
      ∃ front edit back error, edits = front ++ edit :: back ∧
        (∀ other ∈ front, other.Valid text) ∧ edit.Refused text error ∧
        error.kind = .invalidEdit ∧ applyAll text edits = .error error) ∧
    ((∀ edit ∈ edits, edit.Valid text) → ¬ edits.Pairwise Compatible →
      ∃ first second error, [first, second].Subperm edits ∧ ¬ first.Compatible second ∧
        error = .overlap first.span second.span ∧ error.kind = .overlappingEdits ∧
        applyAll text edits = .error error) := by
  refine ⟨⟨?_, ?_⟩, ?_, ?_⟩
  · rintro ⟨result, hresult⟩
    exact valid_of_applyAll hresult
  · rintro ⟨hvalid, hcompatible⟩
    exact exists_applyAll_of_valid hvalid hcompatible
  · intro h
    obtain ⟨front, edit, back, error, hedits, hfront, hrefused, herror⟩ :=
      exists_refused_of_not_valid h
    exact ⟨front, edit, back, error, hedits, hfront, hrefused, hrefused.kind_eq, herror⟩
  · intro hvalid h
    obtain ⟨first, second, hpair, hnot, herror⟩ := exists_overlap_of_valid hvalid h
    exact ⟨first, second, _, hpair, hnot, rfl, rfl, herror⟩

/-- Two lines replaced, an insertion behind them, and one inside them. -/
def insertedInside : List Edit :=
  [⟨.of 1 0 2 1, ['x']⟩, ⟨.of 2 1 2 1, ['y']⟩, ⟨.of 1 2 1 2, ['z']⟩]

/-- An edit outside the text is invalid, and an insertion inside a replaced stretch overlaps. -/
theorem applyAll_accepts_iff_insertedInside :
    let text : Text := ['a', 'b', feed, 'c', 'd']
    let outside : List Edit := [⟨.of 1 3 1 3, []⟩]
    ((¬ ∀ edit ∈ insertedInside ++ outside, edit.Valid text) ∧
      ∃ front edit back error, insertedInside ++ outside = front ++ edit :: back ∧
        (∀ other ∈ front, other.Valid text) ∧ edit.Refused text error ∧
        error.kind = .invalidEdit ∧ applyAll text (insertedInside ++ outside) = .error error) ∧
    ((∀ edit ∈ insertedInside, edit.Valid text) ∧ (¬ insertedInside.Pairwise Compatible) ∧
      ∃ first second error, [first, second].Subperm insertedInside ∧ ¬ first.Compatible second ∧
        error = .overlap first.span second.span ∧ error.kind = .overlappingEdits ∧
        applyAll text insertedInside = .error error) ∧
    ∃ result, applyAll text (insertedInside.take 2) = .ok result := by
  intro text outside
  have hinvalid : ¬ ∀ edit ∈ insertedInside ++ outside, edit.Valid text := by decide
  have hvalid : ∀ edit ∈ insertedInside, edit.Valid text := by decide
  have hnot : ¬ insertedInside.Pairwise Compatible := by decide
  have hfirst : (∀ edit ∈ insertedInside.take 2, edit.Valid text) ∧
      (insertedInside.take 2).Pairwise Compatible := by
    decide
  exact ⟨⟨hinvalid, (applyAll_accepts_iff _ _).2.1 hinvalid⟩,
    ⟨hvalid, hnot, (applyAll_accepts_iff _ _).2.2 hvalid hnot⟩,
    (applyAll_accepts_iff _ _).1.2 hfirst⟩

end Edit

end CellWeave
