import CellWeave.Text.CodePoint
/-!
# Text

Text is the list of its code points: lengths, columns and offsets count these. Two halves of a
surrogate pair side by side stay two. A line feed, and nothing else, ends a line, so a text always
has a last line that no feed ends.
-/

namespace CellWeave

abbrev Text := List CodePoint

/-- What ends a line. -/
abbrev feed : CodePoint :=
  .char '\n'

namespace Text

def ofChars (chars : Chars) : Text :=
  chars.map .char

def ofString (text : String) : Text :=
  ofChars text.toList

/-- The characters, if there are no halves of surrogate pairs. -/
def toChars? (text : Text) : Option Chars :=
  text.mapM CodePoint.toChar?

/-! ## Lines -/

def lines : Text → List Text
  | [] => [[]]
  | c :: rest => if c = feed then [] :: lines rest else (lines rest).modifyHead (c :: ·)

/-- The lines of a text with a feed between neighbours. -/
def unlines : List Text → Text
  | [] => []
  | [line] => line
  | line :: rest => line ++ feed :: unlines rest

/-- Offsets just after each feed, for a text that begins at `offset`. -/
def startsAfter (offset : Nat) : Text → List Nat
  | [] => []
  | c :: rest =>
    if c = feed then (offset + 1) :: startsAfter (offset + 1) rest
    else startsAfter (offset + 1) rest

/-- The offset at which each line begins. -/
def lineOffsets (text : Text) : List Nat :=
  0 :: startsAfter 0 text

def lineCount (text : Text) : Nat :=
  (lineOffsets text).length

def slice (text : Text) (start stop : Nat) : Text :=
  (text.drop start).take (stop - start)

def endsLine (text : Text) : Bool :=
  text.getLast? == some feed

/-- Nothing stands on the last line. -/
def endsEmpty (text : Text) : Bool :=
  text.isEmpty || endsLine text

/-- The text without its final feed, if it ends with one. -/
def dropFinalFeed (text : Text) : Text :=
  if endsLine text then text.dropLast else text

theorem lines_ne_nil (text : Text) : lines text ≠ [] := by
  induction text with
  | nil => simp [lines]
  | cons c rest ih =>
    unfold lines
    split
    · simp
    · cases h : lines rest with
      | nil => exact absurd h ih
      | cons line others => simp [List.modifyHead]

theorem unlines_cons (line : Text) {rest : List Text} (h : rest ≠ []) :
    unlines (line :: rest) = line ++ feed :: unlines rest := by
  cases rest with
  | nil => exact absurd rfl h
  | cons second others => rfl

/-- Cutting at the feeds and joining with feeds gives the text back. -/
@[simp] theorem unlines_lines (text : Text) : unlines (lines text) = text := by
  induction text with
  | nil => rfl
  | cons c rest ih =>
    unfold lines
    split
    · next h => rw [unlines_cons _ (lines_ne_nil rest), ih, h]; rfl
    · cases hl : lines rest with
      | nil => exact absurd hl (lines_ne_nil rest)
      | cons line others =>
        rw [hl] at ih
        cases others with
        | nil => simp_all [List.modifyHead, unlines]
        | cons second tail => simp_all [List.modifyHead, unlines]

end Text

end CellWeave
