import CellWeave.Proofs.Places
import Mathlib.Order.Hom.Basic
/-!
# The line table

The offsets of a text are its positions counted through: every position that the text has stands for
one offset, every offset up to the length of the text for one position, and a position comes before
another if its offset does. So what is sorted by offsets is sorted by positions. The table of line
offsets that the counting rests on goes up, and it cuts the text into its lines.
-/

namespace CellWeave

namespace Text

/-! ## Positions and offsets -/

/-- The place in the text that an offset counts to. -/
def placeAt (text : Text) (offset : Fin (text.length + 1)) : {p : Position // text.Has p} :=
  ⟨text.positionAt offset, (exists_offset_iff text _).1
    ⟨offset, (offset_eq_ok_iff text _ _).2 ⟨Nat.le_of_lt_succ offset.isLt, rfl⟩⟩⟩

theorem offset_placeAt (text : Text) (offset : Fin (text.length + 1)) :
    text.offset (text.placeAt offset).val = .ok offset.val :=
  (offset_eq_ok_iff text _ _).2 ⟨Nat.le_of_lt_succ offset.isLt, rfl⟩

theorem placeAt_le_iff (text : Text) (i j : Fin (text.length + 1)) :
    text.placeAt i ≤ text.placeAt j ↔ i ≤ j :=
  positionAt_le_iff text (Nat.le_of_lt_succ i.isLt) (Nat.le_of_lt_succ j.isLt)

theorem placeAt_injective (text : Text) : Function.Injective text.placeAt := by
  intro i j h
  have hposition := congrArg Subtype.val h
  exact Fin.ext ((positionAt_inj text (Nat.le_of_lt_succ i.isLt) (Nat.le_of_lt_succ j.isLt)).1
    hposition)

theorem placeAt_surjective (text : Text) : Function.Surjective text.placeAt := by
  rintro ⟨p, hp⟩
  obtain ⟨o, ho⟩ := (exists_offset_iff text p).2 hp
  obtain ⟨hle, rfl⟩ := (offset_eq_ok_iff text p o).1 ho
  exact ⟨⟨o, Nat.lt_succ_of_le hle⟩, rfl⟩

/-- The positions of a text in the order of their offsets. -/
noncomputable def places (text : Text) :
    {p : Position // text.Has p} ≃o Fin (text.length + 1) :=
  OrderIso.symm
    { Equiv.ofBijective text.placeAt ⟨text.placeAt_injective, text.placeAt_surjective⟩ with
      map_rel_iff' := fun {i j} ↦ text.placeAt_le_iff i j }

theorem offset_eq_places (text : Text) (p : {p : Position // text.Has p}) :
    text.offset p.val = .ok (text.places p).val := by
  have hplace : text.placeAt (text.places p) = p := text.places.symm_apply_apply p
  rw [← offset_placeAt, hplace]

/-! ## Cutting at the table -/

/-- The pieces of a text from each offset up to the next one, and from the last one on. -/
def cutAt (text : Text) : List Nat → List Text
  | [] => []
  | [start] => [text.drop start]
  | start :: stop :: rest => text.slice start stop :: cutAt text (stop :: rest)

/-- Every line but the last with a feed at its end. -/
def withFeeds : List Text → List Text
  | [] => []
  | [line] => [line]
  | line :: rest => (line ++ [feed]) :: withFeeds rest

theorem withFeeds_cons (line : Text) {rest : List Text} (h : rest ≠ []) :
    withFeeds (line :: rest) = (line ++ [feed]) :: withFeeds rest := by
  cases rest with
  | nil => exact absurd rfl h
  | cons second others => rfl

theorem withFeeds_modifyHead (c : CodePoint) (lines : List Text) :
    withFeeds (lines.modifyHead (c :: ·)) = (withFeeds lines).modifyHead (c :: ·) := by
  rcases lines with _ | ⟨line, _ | ⟨second, others⟩⟩ <;> rfl

theorem lines_eq_splitOn (text : Text) : text.lines = text.splitOn feed := by
  induction text with
  | nil => rfl
  | cons c rest ih =>
    rw [lines, ih, List.splitOn, List.splitOn, List.splitOnP_cons_eq_if_modifyHead]
    simp

/-- The lines are one more than the feeds, and each has its columns and the one behind them. -/
theorem has_iff (text : Text) (p : Position) :
    text.Has p ↔ 1 ≤ p.line ∧ p.line ≤ text.count feed + 1 ∧ 0 ≤ p.column ∧
      p.column ≤ ((text.splitOn feed).getD (p.line - 1).toNat []).length := by
  rw [← lines_eq_splitOn, List.getD_eq_getElem?_getD]
  by_cases hline : p.line < 1 ∨ text.lines.length < p.line
  · have hnone := (line?_eq_none_iff text p.line).2 hline
    rw [length_lines] at hline
    refine iff_of_false ?_ (by omega)
    rintro ⟨line, hmem, -⟩
    simp [hnone] at hmem
  · obtain ⟨line, hsome⟩ : ∃ line, text.line? p.line = some line := by
      rw [← Option.ne_none_iff_exists', ne_eq, line?_eq_none_iff]
      exact hline
    have hget := hsome
    rw [length_lines] at hline
    rw [line?, if_neg (by omega)] at hget
    rw [hget, Option.getD_some, Has, hsome]
    constructor
    · rintro ⟨found, hfound, hcolumn⟩
      obtain rfl := Option.some.inj hfound
      exact ⟨by omega, by omega, hcolumn⟩
    · rintro ⟨-, -, hcolumn⟩
      exact ⟨line, rfl, hcolumn⟩

theorem pairwise_lineOffsets (text : Text) : (lineOffsets text).Pairwise (· < ·) := by
  induction text with
  | nil => simp [lineOffsets, startsAfter]
  | cons c rest ih =>
    refine List.pairwise_cons.2 ⟨fun start hstart ↦ startsAfter_pos hstart, ?_⟩
    by_cases hc : c = feed
    · rw [hc, startsAfter_feed, List.pairwise_map]
      exact ih.imp Nat.succ_lt_succ
    · rw [startsAfter_cons hc, List.pairwise_map]
      exact (List.pairwise_cons.1 ih).2.imp Nat.succ_lt_succ

theorem cutAt_cons_map (c : CodePoint) (text : Text) (offsets : List Nat) :
    cutAt (c :: text) (offsets.map (· + 1)) = cutAt text offsets := by
  induction offsets with
  | nil => rfl
  | cons start rest ih =>
    cases rest with
    | nil => rfl
    | cons stop rest =>
      rw [List.map_cons, List.map_cons, cutAt, ← List.map_cons (f := (· + 1)), ih, cutAt, slice,
        slice, List.drop_succ_cons, Nat.add_sub_add_right]

/-- One more character comes to the first piece. -/
theorem cutAt_cons (c : CodePoint) (text : Text) (starts : List Nat) :
    cutAt (c :: text) (0 :: starts.map (· + 1)) =
      (cutAt text (0 :: starts)).modifyHead (c :: ·) := by
  cases starts with
  | nil => rfl
  | cons stop rest =>
    rw [List.map_cons, cutAt, ← List.map_cons (f := (· + 1)), cutAt_cons_map, cutAt]
    rfl

theorem cutAt_lineOffsets (text : Text) :
    text.cutAt (lineOffsets text) = withFeeds text.lines := by
  induction text with
  | nil => rfl
  | cons c rest ih =>
    by_cases hc : c = feed
    · have hoffsets : lineOffsets (c :: rest) = 0 :: (lineOffsets rest).map (· + 1) := by
        rw [hc, lineOffsets, startsAfter_feed]
      rw [hoffsets, lines, if_pos hc, withFeeds_cons _ (lines_ne_nil rest), ← ih,
        ← cutAt_cons_map c rest, hc]
      rfl
    · rw [lineOffsets, startsAfter_cons hc, cutAt_cons, lines, if_neg hc, withFeeds_modifyHead,
        ← ih, lineOffsets]

example : cutAt (.ofString "ab\n\nc") (lineOffsets (.ofString "ab\n\nc")) =
    [.ofString "ab\n", .ofString "\n", .ofString "c"] := by
  decide

/-- The positions of a text, on its lines as they are split at the feeds, are its offsets in the
same order, and no other position has one. The line table goes up and cuts the text into these
lines, each with the feed that ends it. -/
theorem offset_orderIso (text : Text) :
    (∃ places : {p : Position // text.Has p} ≃o Fin (text.length + 1),
      ∀ p, text.offset p.val = .ok (places p).val) ∧
    (∀ p, (∃ o, text.offset p = .ok o) ↔ text.Has p) ∧
    (∀ p, text.Has p ↔ 1 ≤ p.line ∧ p.line ≤ text.count feed + 1 ∧ 0 ≤ p.column ∧
      p.column ≤ ((text.splitOn feed).getD (p.line - 1).toNat []).length) ∧
    (lineOffsets text).Pairwise (· < ·) ∧
    text.cutAt (lineOffsets text) = withFeeds (text.splitOn feed) := by
  refine ⟨⟨text.places, text.offset_eq_places⟩, text.exists_offset_iff, text.has_iff,
    text.pairwise_lineOffsets, ?_⟩
  rw [cutAt_lineOffsets, lines_eq_splitOn]

end Text

end CellWeave
