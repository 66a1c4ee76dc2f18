import CellWeave.Position
/-!
# Offsets of positions

A position that a text has names one place between its characters, counted from the start of the
text. The last column of a line is the one before its feed.
-/

namespace CellWeave

/-- Why a text has no such position: there is no such line, or its line is too short. -/
inductive PositionFault where
  | line (line : Int) (count : Nat)
  | column (line column : Int) (width : Nat)
  deriving DecidableEq

namespace Text

/-- The offset after the last character of line `index`, counted from 0, its feed left out. -/
def lineStop (text : Text) (index : Nat) : Nat :=
  match (lineOffsets text)[index + 1]? with
  | some next => next - 1
  | none => text.length

def lineStart (text : Text) (index : Nat) : Nat :=
  (lineOffsets text)[index]?.getD 0

def lineWidth (text : Text) (index : Nat) : Nat :=
  lineStop text index - lineStart text index

def offset (text : Text) (position : Position) : Except PositionFault Nat :=
  let index := (position.line - 1).toNat
  if position.line < 1 ∨ position.line > lineCount text then
    .error (.line position.line (lineCount text))
  else if position.column < 0 ∨ position.column > lineWidth text index then
    .error (.column position.line position.column (lineWidth text index))
  else
    .ok (lineStart text index + position.column.toNat)

end Text

end CellWeave
