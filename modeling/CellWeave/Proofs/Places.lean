import CellWeave.Proofs.Lines
import CellWeave.Proofs.Offset
/-!
# Places on lines

A position is a place of a text if the text has its line, and the line, without its feed, goes as
far as its column. A position that is no place is turned down for the first of the two that fails.
The offset of a position is looked up in a table of line offsets, which does not hold the lines; it
finds a place exactly where the lines have one.
-/

namespace CellWeave

namespace Text

/-- The line of a number, counted from 1, without its feed. -/
def line? (text : Text) (number : Int) : Option Text :=
  if number < 1 then none else text.lines[(number - 1).toNat]?

/-- The line of the position is there, and goes as far as its column. -/
def Has (text : Text) (p : Position) : Prop :=
  ∃ line ∈ text.line? p.line, 0 ≤ p.column ∧ p.column ≤ line.length

instance (text : Text) (p : Position) : Decidable (text.Has p) :=
  inferInstanceAs (Decidable (∃ line ∈ text.line? p.line, _))

/-- Why a position is no place of a text: it names the line, or the column and the line's width. -/
inductive Lacks (text : Text) (p : Position) : PositionFault → Prop where
  | line (h : text.line? p.line = none) : Lacks text p (.line p.line text.lines.length)
  | column {line : Text} (h : text.line? p.line = some line)
      (hcolumn : p.column < 0 ∨ line.length < p.column) :
      Lacks text p (.column p.line p.column line.length)

variable {text : Text} {p : Position}

theorem line?_eq_none_iff (text : Text) (number : Int) :
    text.line? number = none ↔ number < 1 ∨ text.lines.length < number := by
  unfold line?
  split
  · next h => simp [h]
  · next h =>
    rw [List.getElem?_eq_none_iff]
    omega

theorem not_has_of_lacks {fault : PositionFault} (h : text.Lacks p fault) : ¬ text.Has p := by
  rintro ⟨line, hline, hcolumn⟩
  rw [Option.mem_def] at hline
  cases h with
  | line h => simp [h] at hline
  | column h hmisfit =>
    obtain rfl := Option.some.inj (hline.symm.trans h)
    omega

/-- Where a text has no position, it lacks the line or the column. -/
theorem exists_lacks_of_not_has (h : ¬ text.Has p) : ∃ fault, text.Lacks p fault := by
  cases hline : text.line? p.line with
  | none => exact ⟨_, .line hline⟩
  | some line =>
    refine ⟨_, .column hline ?_⟩
    by_contra hcolumn
    exact h ⟨line, hline, by omega⟩

/-! ## The table of line offsets -/

theorem lineCount_eq_length (text : Text) : lineCount text = text.lines.length := by
  induction text with
  | nil => rfl
  | cons c rest ih =>
    by_cases hc : c = feed
    · subst hc
      rw [lineCount_feed, lines, if_pos rfl, List.length_cons, ih]
    · rw [lineCount_cons hc, lines, if_neg hc, List.length_modifyHead, ih]

/-- A line is as wide as what is in front of its feed. -/
theorem lineWidth_eq_length {index : Nat} {line : Text} (h : text.lines[index]? = some line) :
    lineWidth text index = line.length := by
  induction text generalizing index line with
  | nil =>
    obtain ⟨hindex, rfl⟩ := List.getElem?_eq_some_iff.1 h
    obtain rfl : index = 0 := by simpa [lines] using hindex
    rfl
  | cons c rest ih =>
    have hrest {index : Nat} {line : Text} (h : (lines rest)[index]? = some line) :
        index < lineCount rest := by
      rw [lineCount_eq_length]
      exact (List.getElem?_eq_some_iff.1 h).1
    by_cases hc : c = feed
    · subst hc
      rw [lines, if_pos rfl] at h
      cases index with
      | zero =>
        obtain rfl : [] = line := by simpa using h
        rw [lineWidth, lineStop_feed_zero, lineStart_zero]
        rfl
      | succ index =>
        rw [List.getElem?_cons_succ] at h
        rw [lineWidth_feed (hrest h), ih h]
    · obtain ⟨first, others, hlines⟩ := List.exists_cons_of_ne_nil (lines_ne_nil rest)
      rw [lines, if_neg hc, hlines, List.modifyHead_cons] at h
      cases index with
      | zero =>
        obtain rfl : c :: first = line := by simpa using h
        rw [lineWidth_cons_zero hc, ih (by rw [hlines]; rfl), List.length_cons]
      | succ index =>
        have hline : (lines rest)[index + 1]? = some line := by rwa [hlines]
        rw [lineWidth_cons hc (hrest hline), ih hline]

/-- The offset of a position fails for what the text lacks there. -/
theorem offset_eq_error_iff (text : Text) (p : Position) (fault : PositionFault) :
    text.offset p = .error fault ↔ text.Lacks p fault := by
  simp only [offset, lineCount_eq_length]
  split
  · next hline =>
    have hnone : text.line? p.line = none := by
      rw [line?_eq_none_iff]
      exact hline
    rw [Except.error.injEq]
    constructor
    · rintro rfl
      exact .line hnone
    · intro h
      cases h with
      | line => rfl
      | column h => simp [hnone] at h
  · next hline =>
    obtain ⟨line, hsome⟩ : ∃ line, text.line? p.line = some line := by
      rw [← Option.ne_none_iff_exists', ne_eq, line?_eq_none_iff]
      exact hline
    have hwidth : lineWidth text (p.line - 1).toNat = line.length := by
      apply lineWidth_eq_length
      rwa [line?, if_neg (by omega)] at hsome
    rw [hwidth]
    split
    · next hcolumn =>
      rw [Except.error.injEq]
      constructor
      · rintro rfl
        exact .column hsome hcolumn
      · intro h
        cases h with
        | line h => simp [hsome] at h
        | column h => rw [Option.some.inj (hsome.symm.trans h)]
    · next hcolumn =>
      constructor
      · rintro ⟨⟩
      · intro h
        cases h with
        | line h => simp [hsome] at h
        | column h hmisfit =>
          obtain rfl := Option.some.inj (hsome.symm.trans h)
          exact absurd hmisfit hcolumn

/-- A position of a text is one that its lines have, and the line table finds those. -/
theorem exists_offset_iff (text : Text) (p : Position) :
    (∃ o, text.offset p = .ok o) ↔ text.Has p := by
  constructor
  · rintro ⟨o, ho⟩
    by_contra hnot
    obtain ⟨fault, hfault⟩ := exists_lacks_of_not_has hnot
    rw [(offset_eq_error_iff text p fault).2 hfault] at ho
    exact absurd ho nofun
  · intro h
    cases ho : text.offset p with
    | ok o => exact ⟨o, rfl⟩
    | error fault => exact absurd h (not_has_of_lacks ((offset_eq_error_iff text p fault).1 ho))

end Text

end CellWeave
