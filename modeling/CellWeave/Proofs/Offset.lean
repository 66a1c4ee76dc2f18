import CellWeave.Offset
import Mathlib.Data.List.Basic
/-!
# Walking through a text

A reader who walks through a text stands at one position after each character. The offset of a
position is the number of characters that such a walk takes to it, so positions of a text and
offsets up to its length are the same thing in two notations. Walks compose, which is how positions
in a text are read as positions in a part of it.
-/

namespace CellWeave

namespace Position

/-- The same column, some lines further down. -/
def down (position : Position) (lines : Nat) : Position :=
  ⟨position.line + lines, position.column⟩

@[simp] theorem down_line (p : Position) (lines : Nat) : (p.down lines).line = p.line + lines :=
  rfl

theorem le_refl (p : Position) : p ≤ p :=
  le_iff.2 (.inr ⟨rfl, Int.le_refl _⟩)

theorem le_antisymm {p q : Position} (hpq : p ≤ q) (hqp : q ≤ p) : p = q := by
  cases p
  cases q
  simp only [le_iff, mk.injEq] at *
  omega

theorem le_trans {p q r : Position} (hpq : p ≤ q) (hqr : q ≤ r) : p ≤ r := by
  rw [le_iff] at *
  omega

theorem lt_of_lt_of_le {p q r : Position} (hpq : p < q) (hqr : q ≤ r) : p < r := by
  rw [lt_iff] at *
  rw [le_iff] at hqr
  omega

theorem le_of_lt {p q : Position} (h : p < q) : p ≤ q := by
  rw [lt_iff] at h
  rw [le_iff]
  omega

theorem down_le_down_iff {p q : Position} {lines : Nat} : p.down lines ≤ q.down lines ↔ p ≤ q := by
  simp only [le_iff, down]
  omega

theorem down_injective {p q : Position} {lines : Nat} (h : p.down lines = q.down lines) :
    p = q := by
  cases p
  cases q
  simp only [down, mk.injEq] at h ⊢
  omega

end Position

namespace Text

/-! ## The walk -/

/-- Where a reader stands after one more character. -/
def advance (position : Position) (c : CodePoint) : Position :=
  if c = feed then ⟨position.line + 1, 0⟩ else ⟨position.line, position.column + 1⟩

def walk (position : Position) (text : Text) : Position :=
  text.foldl advance position

/-- The position of an offset: where a reader stands after so many characters. -/
def positionAt (text : Text) (offset : Nat) : Position :=
  walk ⟨1, 0⟩ (text.take offset)

@[simp] theorem walk_nil (p : Position) : walk p [] = p :=
  rfl

@[simp] theorem walk_cons (p : Position) (c : CodePoint) (text : Text) :
    walk p (c :: text) = walk (advance p c) text :=
  rfl

theorem walk_append (p : Position) (first second : Text) :
    walk p (first ++ second) = walk (walk p first) second := by
  simp [walk]

theorem advance_down (p : Position) (lines : Nat) (c : CodePoint) :
    advance (p.down lines) c = (advance p c).down lines := by
  unfold advance Position.down
  split
  · simp only [Position.mk.injEq, and_true]
    omega
  · rfl

theorem walk_down (p : Position) (lines : Nat) (text : Text) :
    walk (p.down lines) text = (walk p text).down lines := by
  induction text generalizing p with
  | nil => rfl
  | cons c rest ih => rw [walk_cons, walk_cons, advance_down, ih]

/-- A walk goes down one line for each feed. -/
theorem walk_line (p : Position) (text : Text) :
    (walk p text).line = p.line + text.count feed := by
  induction text generalizing p with
  | nil => simp
  | cons c rest ih =>
    rw [walk_cons, ih]
    by_cases hc : c = feed
    · subst hc
      simp only [advance, if_true, List.count_cons_self]
      omega
    · simp [advance, hc]

theorem walk_column_of_endsLine {text : Text} (h : text.endsLine) (p : Position) :
    (walk p text).column = 0 := by
  obtain ⟨front, rfl⟩ := List.getLast?_eq_some_iff.1 (beq_iff_eq.1 h)
  rw [walk_append]
  simp [advance]

/-- After whole lines a reader stands at the start of the next one. -/
theorem walk_of_endsLine {text : Text} (h : text.endsLine) :
    walk ⟨1, 0⟩ text = (⟨1, 0⟩ : Position).down (text.count feed) := by
  have hline := walk_line ⟨1, 0⟩ text
  have hcolumn := walk_column_of_endsLine h ⟨1, 0⟩
  cases hw : walk ⟨1, 0⟩ text with
  | mk line column =>
    rw [hw] at hline hcolumn
    simp_all [Position.down]

theorem lt_advance (p : Position) (c : CodePoint) : p < advance p c := by
  rw [Position.lt_iff]
  unfold advance
  split <;> dsimp only <;> omega

theorem le_walk (p : Position) (text : Text) : p ≤ walk p text := by
  induction text generalizing p with
  | nil => exact p.le_refl
  | cons c rest ih =>
    exact Position.le_of_lt (Position.lt_of_lt_of_le (lt_advance p c) (ih (advance p c)))

theorem lt_walk (p : Position) {text : Text} (h : text ≠ []) : p < walk p text := by
  cases text with
  | nil => exact absurd rfl h
  | cons c rest => exact Position.lt_of_lt_of_le (lt_advance p c) (le_walk (advance p c) rest)

theorem positionAt_add (text : Text) (i k : Nat) :
    positionAt text (i + k) = walk (positionAt text i) ((text.drop i).take k) := by
  rw [positionAt, List.take_add, walk_append, positionAt]

theorem positionAt_line_le (text : Text) {i j : Nat} (h : i ≤ j) :
    (positionAt text i).line ≤ (positionAt text j).line := by
  obtain ⟨k, rfl⟩ := Nat.exists_eq_add_of_le h
  rw [positionAt_add, walk_line]
  omega

/-- Later offsets have later positions. -/
theorem positionAt_lt (text : Text) {i j : Nat} (hij : i < j) (hj : j ≤ text.length) :
    positionAt text i < positionAt text j := by
  obtain ⟨k, rfl⟩ := Nat.exists_eq_add_of_lt hij
  rw [Nat.add_assoc, positionAt_add]
  apply lt_walk
  intro hnil
  have hlength := congrArg List.length hnil
  simp only [List.length_take, List.length_drop, List.length_nil] at hlength
  omega

/-- Offsets and positions are in the same order. -/
theorem positionAt_lt_iff (text : Text) {i j : Nat} (hi : i ≤ text.length)
    (hj : j ≤ text.length) : positionAt text i < positionAt text j ↔ i < j := by
  refine ⟨fun h ↦ ?_, fun h ↦ positionAt_lt text h hj⟩
  by_contra hji
  rcases Nat.lt_or_eq_of_le (Nat.le_of_not_lt hji) with hlt | rfl
  · exact Position.not_lt.2 (Position.le_of_lt (positionAt_lt text hlt hi)) h
  · exact Position.not_lt.2 (Position.le_refl _) h

/-- Different offsets have different positions. -/
theorem positionAt_inj (text : Text) {i j : Nat} (hi : i ≤ text.length) (hj : j ≤ text.length) :
    positionAt text i = positionAt text j ↔ i = j := by
  constructor
  · intro h
    rcases Nat.lt_trichotomy i j with hlt | heq | hgt
    · exact absurd (h ▸ positionAt_lt text hlt hj) (Position.not_lt.2 (Position.le_refl _))
    · exact heq
    · exact absurd (h ▸ positionAt_lt text hgt hi) (Position.not_lt.2 (Position.le_refl _))
  · rintro rfl
    rfl

theorem positionAt_le_iff (text : Text) {i j : Nat} (hi : i ≤ text.length)
    (hj : j ≤ text.length) : positionAt text i ≤ positionAt text j ↔ i ≤ j := by
  rw [← Position.not_lt, positionAt_lt_iff text hj hi, Nat.not_lt]

/-! ## Line tables

The recursion of the line table: a character before a text moves all offsets by one, and a feed
before it is a line of its own.
-/

theorem startsAfter_eq_map (offset : Nat) (text : Text) :
    startsAfter offset text = (startsAfter 0 text).map (· + offset) := by
  induction text generalizing offset with
  | nil => rfl
  | cons c rest ih =>
    unfold startsAfter
    rw [ih (offset + 1), ih (0 + 1)]
    split <;> simp [Function.comp_def, Nat.add_comm, Nat.add_left_comm]

theorem startsAfter_feed (rest : Text) :
    startsAfter 0 (feed :: rest) = (lineOffsets rest).map (· + 1) := by
  simp [lineOffsets, startsAfter, startsAfter_eq_map 1]

/-- A character that is no feed moves all later line starts. -/
theorem startsAfter_cons {c : CodePoint} (hc : c ≠ feed) (rest : Text) :
    startsAfter 0 (c :: rest) = (startsAfter 0 rest).map (· + 1) := by
  simp [startsAfter, hc, startsAfter_eq_map 1]

theorem startsAfter_pos {text : Text} {start : Nat} (h : start ∈ startsAfter 0 text) :
    0 < start := by
  cases text with
  | nil => simp [startsAfter] at h
  | cons c rest =>
    by_cases hc : c = feed
    · subst hc
      rw [startsAfter_feed] at h
      obtain ⟨before, -, rfl⟩ := List.mem_map.1 h
      omega
    · rw [startsAfter_cons hc] at h
      obtain ⟨before, -, rfl⟩ := List.mem_map.1 h
      omega

theorem lineCount_eq (text : Text) : lineCount text = (startsAfter 0 text).length + 1 :=
  rfl

theorem lineCount_pos (text : Text) : 0 < lineCount text :=
  Nat.succ_pos _

theorem lineCount_feed (rest : Text) : lineCount (feed :: rest) = lineCount rest + 1 := by
  rw [lineCount_eq, startsAfter_feed, List.length_map, lineCount]

theorem lineCount_cons {c : CodePoint} (hc : c ≠ feed) (rest : Text) :
    lineCount (c :: rest) = lineCount rest := by
  rw [lineCount_eq, startsAfter_cons hc, List.length_map, lineCount_eq]

@[simp] theorem lineStart_zero (text : Text) : lineStart text 0 = 0 :=
  rfl

theorem lineStart_succ (text : Text) (index : Nat) :
    lineStart text (index + 1) = (startsAfter 0 text)[index]?.getD 0 :=
  rfl

theorem lineStart_feed {rest : Text} {index : Nat} (h : index < lineCount rest) :
    lineStart (feed :: rest) (index + 1) = lineStart rest index + 1 := by
  rw [lineStart_succ, startsAfter_feed, List.getElem?_map, lineStart,
    List.getElem?_eq_getElem h]
  rfl

/-- A character that is no feed moves the start of every line but the first. -/
theorem lineStart_cons {c : CodePoint} (hc : c ≠ feed) {rest : Text} {index : Nat}
    (h : index + 1 < lineCount rest) :
    lineStart (c :: rest) (index + 1) = lineStart rest (index + 1) + 1 := by
  rw [lineStart_succ, lineStart_succ, startsAfter_cons hc, List.getElem?_map,
    List.getElem?_eq_getElem (Nat.lt_of_succ_lt_succ h)]
  rfl

/-- The feed of a line stands just before the next line; the last line ends with the text. -/
theorem lineStop_of_getElem? {text : Text} {index next : Nat}
    (h : (startsAfter 0 text)[index]? = some next) : lineStop text index = next - 1 := by
  simp only [lineStop, lineOffsets, List.getElem?_cons_succ, h]

theorem lineStop_of_none {text : Text} {index : Nat} (h : (startsAfter 0 text)[index]? = none) :
    lineStop text index = text.length := by
  simp only [lineStop, lineOffsets, List.getElem?_cons_succ, h]

theorem lineStop_feed_zero (rest : Text) : lineStop (feed :: rest) 0 = 0 := by
  have hfirst : (startsAfter 0 (feed :: rest))[0]? = some 1 := by
    rw [startsAfter_feed]
    rfl
  exact lineStop_of_getElem? hfirst

/-- Below a first feed, the lines end where they do in the rest. -/
theorem lineStop_feed (rest : Text) (index : Nat) :
    lineStop (feed :: rest) (index + 1) = lineStop rest index + 1 := by
  cases hnext : (startsAfter 0 rest)[index]? with
  | none =>
    rw [lineStop_of_none hnext, lineStop_of_none, List.length_cons]
    rw [startsAfter_feed, List.getElem?_map, lineOffsets, List.getElem?_cons_succ, hnext]
    rfl
  | some next =>
    have hpos := startsAfter_pos (List.mem_of_getElem? hnext)
    have hshifted : (startsAfter 0 (feed :: rest))[index + 1]? = some (next + 1) := by
      rw [startsAfter_feed, List.getElem?_map, lineOffsets, List.getElem?_cons_succ, hnext]
      rfl
    rw [lineStop_of_getElem? hnext, lineStop_of_getElem? hshifted]
    omega

theorem lineStop_cons {c : CodePoint} (hc : c ≠ feed) (rest : Text) (index : Nat) :
    lineStop (c :: rest) index = lineStop rest index + 1 := by
  cases hnext : (startsAfter 0 rest)[index]? with
  | none =>
    rw [lineStop_of_none hnext, lineStop_of_none, List.length_cons]
    rw [startsAfter_cons hc, List.getElem?_map, hnext]
    rfl
  | some next =>
    have hpos := startsAfter_pos (List.mem_of_getElem? hnext)
    have hshifted : (startsAfter 0 (c :: rest))[index]? = some (next + 1) := by
      rw [startsAfter_cons hc, List.getElem?_map, hnext]
      rfl
    rw [lineStop_of_getElem? hnext, lineStop_of_getElem? hshifted]
    omega

/-- The positions that a text has, by the line table. -/
theorem offset_eq_ok (text : Text) (p : Position) (o : Nat) :
    text.offset p = .ok o ↔ ∃ index column : Nat, p = ⟨index + 1, column⟩ ∧
      index < lineCount text ∧ column ≤ lineWidth text index ∧
      o = lineStart text index + column := by
  simp only [offset]
  split
  · next hline =>
    refine iff_of_false nofun ?_
    rintro ⟨index, column, rfl, hindex, -, -⟩
    simp only at hline
    omega
  · next hline =>
    split
    · next hcolumn =>
      refine iff_of_false nofun ?_
      rintro ⟨index, column, rfl, hindex, hwidth, -⟩
      simp only [Int.add_sub_cancel, Int.toNat_natCast] at hcolumn
      omega
    · next hcolumn =>
      simp only [Except.ok.injEq]
      constructor
      · rintro rfl
        refine ⟨(p.line - 1).toNat, p.column.toNat, ?_, by omega, by omega, rfl⟩
        cases p
        simp only [Position.mk.injEq] at *
        omega
      · rintro ⟨index, column, rfl, -, -, rfl⟩
        simp

/-! ## Offsets by recursion -/

theorem lineWidth_feed {rest : Text} {index : Nat} (h : index < lineCount rest) :
    lineWidth (feed :: rest) (index + 1) = lineWidth rest index := by
  rw [lineWidth, lineStop_feed, lineStart_feed h, Nat.add_sub_add_right, lineWidth]

theorem lineWidth_cons_zero {c : CodePoint} (hc : c ≠ feed) (rest : Text) :
    lineWidth (c :: rest) 0 = lineWidth rest 0 + 1 := by
  rw [lineWidth, lineStop_cons hc, lineStart_zero, lineWidth, lineStart_zero]
  rfl

theorem lineWidth_cons {c : CodePoint} (hc : c ≠ feed) {rest : Text} {index : Nat}
    (h : index + 1 < lineCount rest) :
    lineWidth (c :: rest) (index + 1) = lineWidth rest (index + 1) := by
  rw [lineWidth, lineStop_cons hc, lineStart_cons hc h, Nat.add_sub_add_right, lineWidth]

/-- One column further right on the first line, and the same place on the others. -/
def indent (p : Position) : Position :=
  if p.line = 1 then ⟨1, p.column + 1⟩ else p

theorem advance_indent {p : Position} (h : 1 ≤ p.line) (c : CodePoint) :
    advance (indent p) c = indent (advance p c) := by
  unfold advance indent
  split
  · split <;> simp_all
    omega
  · split <;> simp_all

theorem walk_indent {p : Position} (h : 1 ≤ p.line) (text : Text) :
    walk (indent p) text = indent (walk p text) := by
  induction text generalizing p with
  | nil => rfl
  | cons c rest ih =>
    rw [walk_cons, advance_indent h, ih, walk_cons]
    unfold advance
    split <;> dsimp only <;> omega

theorem offset_nil (p : Position) (o : Nat) :
    offset [] p = .ok o ↔ p = ⟨1, 0⟩ ∧ o = 0 := by
  rw [offset_eq_ok]
  constructor
  · rintro ⟨index, column, rfl, hindex, hcolumn, rfl⟩
    obtain rfl : index = 0 := by simpa [lineCount_eq, startsAfter] using hindex
    obtain rfl : column = 0 := by
      simpa [lineWidth, lineStop, lineOffsets, startsAfter] using hcolumn
    exact ⟨rfl, rfl⟩
  · rintro ⟨rfl, rfl⟩
    exact ⟨0, 0, rfl, lineCount_pos [], Nat.zero_le _, rfl⟩

/-- Below a first feed, offsets are those in the rest. -/
theorem offset_feed (rest : Text) (p : Position) (o : Nat) :
    offset (feed :: rest) p = .ok o ↔
      p = ⟨1, 0⟩ ∧ o = 0 ∨ ∃ q k, p = q.down 1 ∧ o = k + 1 ∧ offset rest q = .ok k := by
  simp only [offset_eq_ok, lineCount_feed]
  constructor
  · rintro ⟨index, column, rfl, hindex, hcolumn, rfl⟩
    cases index with
    | zero =>
      obtain rfl : column = 0 := by simpa [lineWidth, lineStop_feed_zero] using hcolumn
      exact .inl ⟨rfl, rfl⟩
    | succ index =>
      have hrest : index < lineCount rest := Nat.lt_of_succ_lt_succ hindex
      rw [lineWidth_feed hrest] at hcolumn
      refine .inr ⟨⟨index + 1, column⟩, lineStart rest index + column, rfl, ?_,
        index, column, rfl, hrest, hcolumn, rfl⟩
      rw [lineStart_feed hrest]
      omega
  · rintro (⟨rfl, rfl⟩ | ⟨q, k, rfl, rfl, index, column, rfl, hindex, hcolumn, rfl⟩)
    · exact ⟨0, 0, rfl, Nat.succ_pos _, Nat.zero_le _, rfl⟩
    · refine ⟨index + 1, column, rfl, Nat.succ_lt_succ hindex, ?_, ?_⟩
      · rwa [lineWidth_feed hindex]
      · rw [lineStart_feed hindex]
        omega

/-- On the line of a character that is no feed, it stands before the columns of the rest. -/
theorem offset_cons {c : CodePoint} (hc : c ≠ feed) (rest : Text) (p : Position) (o : Nat) :
    offset (c :: rest) p = .ok o ↔
      p = ⟨1, 0⟩ ∧ o = 0 ∨ ∃ q k, p = indent q ∧ o = k + 1 ∧ offset rest q = .ok k := by
  simp only [offset_eq_ok, lineCount_cons hc]
  constructor
  · rintro ⟨index, column, rfl, hindex, hcolumn, rfl⟩
    cases index with
    | zero =>
      rw [lineWidth_cons_zero hc] at hcolumn
      cases column with
      | zero => exact .inl ⟨rfl, rfl⟩
      | succ column =>
        refine .inr ⟨⟨1, column⟩, column, rfl, by rw [lineStart_zero, Nat.zero_add], 0, column, rfl,
          lineCount_pos rest, Nat.le_of_succ_le_succ hcolumn, ?_⟩
        rw [lineStart_zero, Nat.zero_add]
    | succ index =>
      rw [lineWidth_cons hc hindex] at hcolumn
      refine .inr ⟨⟨(index + 1 : Nat) + 1, column⟩, lineStart rest (index + 1) + column, ?_, ?_,
        index + 1, column, rfl, hindex, hcolumn, rfl⟩
      · rw [indent, if_neg]
        dsimp only
        omega
      · rw [lineStart_cons hc hindex]
        omega
  · rintro (⟨rfl, rfl⟩ | ⟨q, k, rfl, rfl, index, column, rfl, hindex, hcolumn, rfl⟩)
    · exact ⟨0, 0, rfl, lineCount_pos rest, Nat.zero_le _, rfl⟩
    · cases index with
      | zero =>
        refine ⟨0, column + 1, rfl, hindex, ?_, ?_⟩
        · rw [lineWidth_cons_zero hc]
          omega
        · rw [lineStart_zero, lineStart_zero]
          omega
      | succ index =>
        refine ⟨index + 1, column, ?_, hindex, ?_, ?_⟩
        · rw [indent, if_neg]
          dsimp only
          omega
        · rwa [lineWidth_cons hc hindex]
        · rw [lineStart_cons hc hindex]
          omega

/-- Positions of a text and offsets in it are one thing: the line table finds an offset for the
positions that a walk through the text comes to, and no others. -/
theorem offset_eq_ok_iff (text : Text) (p : Position) (o : Nat) :
    text.offset p = .ok o ↔ o ≤ text.length ∧ positionAt text o = p := by
  induction text generalizing p o with
  | nil =>
    rw [offset_nil, positionAt, List.take_nil, walk_nil, List.length_nil, Nat.le_zero]
    exact ⟨fun h ↦ ⟨h.2, h.1.symm⟩, fun h ↦ ⟨h.2.symm, h.1⟩⟩
  | cons c rest ih =>
    have hstep : offset (c :: rest) p = .ok o ↔ p = ⟨1, 0⟩ ∧ o = 0 ∨
        ∃ k, o = k + 1 ∧ k ≤ rest.length ∧ p = walk (advance ⟨1, 0⟩ c) (rest.take k) := by
      by_cases hc : c = feed
      · subst hc
        rw [offset_feed]
        refine or_congr Iff.rfl ⟨?_, ?_⟩
        · rintro ⟨q, k, rfl, rfl, hq⟩
          obtain ⟨hk, rfl⟩ := (ih q k).1 hq
          exact ⟨k, rfl, hk, (walk_down ⟨1, 0⟩ 1 _).symm⟩
        · rintro ⟨k, rfl, hk, rfl⟩
          exact ⟨_, k, walk_down ⟨1, 0⟩ 1 _, rfl, (ih _ k).2 ⟨hk, rfl⟩⟩
      · have hadvance : advance ⟨1, 0⟩ c = indent ⟨1, 0⟩ := by simp [advance, indent, hc]
        rw [offset_cons hc, hadvance]
        refine or_congr Iff.rfl ⟨?_, ?_⟩
        · rintro ⟨q, k, rfl, rfl, hq⟩
          obtain ⟨hk, rfl⟩ := (ih q k).1 hq
          exact ⟨k, rfl, hk, (walk_indent (Int.le_refl 1) _).symm⟩
        · rintro ⟨k, rfl, hk, rfl⟩
          exact ⟨_, k, walk_indent (Int.le_refl 1) _, rfl, (ih _ k).2 ⟨hk, rfl⟩⟩
    rw [hstep]
    cases o with
    | zero => simp [positionAt, eq_comm]
    | succ o => simp [positionAt, eq_comm]

/-! ## Parts of a text -/

theorem positionAt_append_left (first second : Text) {i : Nat} (h : i ≤ first.length) :
    positionAt (first ++ second) i = positionAt first i := by
  rw [positionAt, List.take_append_of_le_length h, positionAt]

/-- Past whole lines, positions are those of what follows, further down. -/
theorem positionAt_append_right {first : Text} (h : first.endsLine) (second : Text) (i : Nat) :
    positionAt (first ++ second) (first.length + i) =
      (positionAt second i).down (first.count feed) := by
  rw [positionAt_add, positionAt_append_left first second (Nat.le_refl _), positionAt,
    List.take_length, walk_of_endsLine h, walk_down, List.drop_left, positionAt]

end Text

end CellWeave
