import CellWeave.Proofs.Accepted
/-!
# Batches in another order

Edits are sorted by their offsets, which is to sort their spans by position. Only edits with one and
the same span can then change places, and where there are two such edits the batch is turned down
for a pair of spans. So a batch in another order makes the same text, or is turned down as well; and
if its edits are valid, for the same two spans.
-/

namespace CellWeave

namespace Span

/-- By their starts, and from one start by their stops. -/
def precedes (first second : Span) : Prop :=
  first.start < second.start ∨ first.start = second.start ∧ first.stop ≤ second.stop

theorem precedes_antisymm {first second : Span} (h : first.precedes second)
    (h' : second.precedes first) : first = second := by
  rcases h with h | ⟨h, hstop⟩ <;> rcases h' with h' | ⟨h', hstop'⟩
  · exact absurd h (Position.not_lt.2 (Position.le_of_lt h'))
  · exact absurd h (Position.not_lt.2 (h' ▸ Position.le_refl _))
  · exact absurd h' (Position.not_lt.2 (h ▸ Position.le_refl _))
  · exact congrArg₂ Span.mk h (Position.le_antisymm hstop hstop')

end Span

namespace PlacedEdit

variable {text : Text} {first second : PlacedEdit} {items others : List PlacedEdit}

def span (item : PlacedEdit) : Span :=
  item.edit.span

theorem precedes_iff_span (hfirst : first.Fits text) (hsecond : second.Fits text) :
    first.precedes second ↔ first.span.precedes second.span := by
  rw [precedes_iff, Span.precedes, span, span, ← hfirst.start_position, ← hfirst.stop_position,
    ← hsecond.start_position, ← hsecond.stop_position,
    text.positionAt_lt_iff hfirst.start_le hsecond.start_le,
    text.positionAt_inj hfirst.start_le hsecond.start_le,
    text.positionAt_le_iff hfirst.stop_le hsecond.stop_le]

/-- Where the same edits are sorted, the same spans stand in the same places. -/
theorem map_span_eq (hperm : (items.map (·.edit)).Perm (others.map (·.edit)))
    (hitems : ∀ item ∈ items, item.Fits text) (hothers : ∀ item ∈ others, item.Fits text)
    (hsorted : items.Pairwise (precedes · ·)) (hsorted' : others.Pairwise (precedes · ·)) :
    items.map span = others.map span := by
  have hspans {items : List PlacedEdit} (hfits : ∀ item ∈ items, item.Fits text)
      (hsorted : items.Pairwise (precedes · ·)) :
      (items.map span).Pairwise Span.precedes := by
    rw [List.pairwise_map]
    exact hsorted.imp_of_mem fun hfirst hsecond h ↦
      (precedes_iff_span (hfits _ hfirst) (hfits _ hsecond)).1 h
  have hperm := hperm.map (·.span)
  rw [List.map_map, List.map_map] at hperm
  exact hperm.eq_of_pairwise (fun _ _ _ _ ↦ Span.precedes_antisymm) (hspans hitems hsorted)
    (hspans hothers hsorted')

theorem clashes_congr {first' second' : PlacedEdit} (hfirst : first.Fits text)
    (hsecond : second.Fits text) (hfirst' : first'.Fits text) (hsecond' : second'.Fits text)
    (h : first.span = first'.span) (h' : second.span = second'.span) :
    first.clashes second = first'.clashes second' := by
  have hoffsets {item other : PlacedEdit} (hitem : item.Fits text) (hother : other.Fits text)
      (h : item.span = other.span) : item.start = other.start ∧ item.stop = other.stop := by
    rw [← text.positionAt_inj hitem.start_le hother.start_le,
      ← text.positionAt_inj hitem.stop_le hother.stop_le, hitem.start_position,
      hother.start_position, hitem.stop_position, hother.stop_position]
    exact ⟨congrArg Span.start h, congrArg Span.stop h⟩
  obtain ⟨hstart, hstop⟩ := hoffsets hfirst hfirst' h
  obtain ⟨hstart', -⟩ := hoffsets hsecond hsecond' h'
  rw [clashes, clashes, hstart, hstop, hstart']

/-- The spans of the first clash are found by the spans alone. -/
theorem firstClash?_congr (h : items.map span = others.map span)
    (hitems : ∀ item ∈ items, item.Fits text) (hothers : ∀ item ∈ others, item.Fits text) :
    (firstClash? items).map (Prod.map span span) =
      (firstClash? others).map (Prod.map span span) := by
  induction items generalizing others with
  | nil =>
    obtain rfl := List.map_eq_nil_iff.1 h.symm
    rfl
  | cons first rest ih =>
    obtain ⟨first', rest', rfl, hfirst, hrest⟩ := List.map_eq_cons_iff.1 h.symm
    obtain ⟨hfits, hfitsRest⟩ := List.forall_mem_cons.1 hitems
    obtain ⟨hfits', hfitsRest'⟩ := List.forall_mem_cons.1 hothers
    have ih := ih hrest.symm hfitsRest hfitsRest'
    cases rest with
    | nil =>
      obtain rfl := List.map_eq_nil_iff.1 hrest
      rfl
    | cons second rest =>
      obtain ⟨second', rest', rfl, hsecond, -⟩ := List.map_eq_cons_iff.1 hrest
      have hclashes := clashes_congr hfits (hfitsRest second List.mem_cons_self) hfits'
        (hfitsRest' second' List.mem_cons_self) hfirst.symm hsecond.symm
      rw [firstClash?, firstClash?, hclashes]
      split
      · simp [hfirst, hsecond]
      · exact ih

end PlacedEdit

namespace Edit

variable {text : Text} {edits others : List Edit}

theorem applyAll_eq_error_of_perm (h : edits.Perm others)
    (hvalid : ∀ edit ∈ edits, edit.Valid text) {error : EditError}
    (herror : applyAll text edits = .error error) : applyAll text others = .error error := by
  have hvalid' : ∀ edit ∈ others, edit.Valid text := fun edit hedit ↦
    hvalid edit (h.mem_iff.2 hedit)
  obtain ⟨items, hperm, hfits, hsorted, hplace⟩ := placeAll_of_valid hvalid
  obtain ⟨items', hperm', hfits', hsorted', hplace'⟩ := placeAll_of_valid hvalid'
  -- The sorted edits may differ where spans are equal, and the clash is found all the same.
  have hspans := PlacedEdit.map_span_eq (hperm.trans (h.trans hperm'.symm)) hfits hfits' hsorted
    hsorted'
  have hclash := PlacedEdit.firstClash?_congr hspans hfits hfits'
  rw [applyAll_eq_error_iff] at herror ⊢
  rw [hplace] at herror
  rw [hplace']
  cases hfirst : PlacedEdit.firstClash? items with
  | none => simp [hfirst] at herror
  | some pair =>
    rw [hfirst] at hclash herror
    obtain ⟨pair', hpair', hsame⟩ := Option.map_eq_some_iff.1 hclash.symm
    obtain ⟨hleft, hright⟩ := Prod.mk.inj hsame
    simp only [PlacedEdit.span] at hleft hright
    rw [hpair']
    simpa [hleft, hright] using herror

/-- The order in which a batch lists its edits is of no account: the text is the same, and so is
the error unless some edit is not valid. -/
theorem applyAll_perm (h : edits.Perm others) :
    ((∃ result, applyAll text edits = .ok result ∧ applyAll text others = .ok result) ∨
      ∃ error other, applyAll text edits = .error error ∧ applyAll text others = .error other) ∧
    ((∀ edit ∈ edits, edit.Valid text) → ∀ error, applyAll text edits = .error error →
      applyAll text others = .error error ∧ error.kind = .overlappingEdits) := by
  constructor
  · cases hresult : applyAll text edits with
    | ok result => exact .inl ⟨result, rfl, applyAll_of_perm h hresult⟩
    | error error =>
      cases hother : applyAll text others with
      | ok result =>
        exact absurd ((applyAll_of_perm h.symm hother).symm.trans hresult) nofun
      | error other => exact .inr ⟨error, other, rfl, rfl⟩
  · intro hvalid error herror
    refine ⟨applyAll_eq_error_of_perm h hvalid herror, ?_⟩
    have hnot : ¬ edits.Pairwise Compatible := fun hcompatible ↦ by
      obtain ⟨result, hresult⟩ := exists_applyAll_of_valid hvalid hcompatible
      exact absurd (hresult.symm.trans herror) nofun
    obtain ⟨first, second, -, -, hoverlap⟩ := exists_overlap_of_valid hvalid hnot
    obtain rfl := Except.error.inj (hoverlap.symm.trans herror)
    rfl

/-- Two insertions at one place, and a replacement that ends there. -/
def insertedTwice : List Edit :=
  [⟨.of 1 1 1 1, ['x']⟩, ⟨.of 1 0 1 1, ['z']⟩, ⟨.of 1 1 1 1, ['y']⟩]

theorem applyAll_perm_insertedTwice :
    let text : Text := ['a', 'b', feed]
    insertedTwice.Perm insertedTwice.reverse ∧ (∀ edit ∈ insertedTwice, edit.Valid text) ∧
      applyAll text insertedTwice = .error (.overlap (.of 1 1 1 1) (.of 1 1 1 1)) ∧
      applyAll text insertedTwice.reverse = .error (.overlap (.of 1 1 1 1) (.of 1 1 1 1)) := by
  have hperm := insertedTwice.reverse_perm.symm
  have hvalid : ∀ edit ∈ insertedTwice, edit.Valid ['a', 'b', feed] := by decide
  have herror : applyAll ['a', 'b', feed] insertedTwice =
      .error (.overlap (.of 1 1 1 1) (.of 1 1 1 1)) := by
    obtain ⟨first, second, hpair, hnot, h⟩ := exists_overlap_of_valid hvalid (by decide)
    -- The replacement ends where the insertions are, so it is compatible with both.
    have hspans : ∀ first ∈ insertedTwice, ∀ second ∈ insertedTwice, first ≠ second →
        ¬ first.Compatible second → first.span = .of 1 1 1 1 ∧ second.span = .of 1 1 1 1 := by
      decide
    have hne : first ≠ second := by
      have hnodup : insertedTwice.Nodup := by decide
      obtain ⟨pair, hperm, hsub⟩ := hpair
      simpa using hperm.nodup_iff.1 (hnodup.sublist hsub)
    have hmem := hpair.subset
    simp only [List.cons_subset] at hmem
    obtain ⟨hfirst, hsecond⟩ := hspans first hmem.1 second hmem.2.1 hne hnot
    rw [h, hfirst, hsecond]
  exact ⟨hperm, hvalid, herror, ((applyAll_perm hperm).2 hvalid _ herror).1⟩

end Edit

end CellWeave
