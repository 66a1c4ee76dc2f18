import CellWeave.Yaml.Fault
/-!
# Sources of YAML texts

A text is read in pieces of 4096 characters, and a piece only when one of its characters is asked
for. So what is wrong with a piece is no fault as long as the reading ends before it. A source is
what comes before the first such piece, and its fault. The first two pieces are read as one.
-/

namespace CellWeave.Yaml

/-- The characters a YAML text may have at all. -/
def isAllowed (c : Char) : Bool :=
  let code := c.toNat
  code = 0x09 || code = 0x0A || code = 0x0D || 0x20 ≤ code && code ≤ 0x7E || code = 0x85 ||
    0xA0 ≤ code && code ≤ 0xD7FF || 0xE000 ≤ code && code ≤ 0xFFFD || 0x10000 ≤ code

/-- A text and the fault after it, if it does not end there. -/
structure Source where
  text : Chars
  fault : Option Fault

namespace Source

def pieceSize : Nat :=
  4096

/-- Adds pieces up to the end of the text or the first one with a character that is not allowed. -/
def addPieces (before : Chars) (last : Option Fault) (size : Nat) (text : Chars) : Nat → Source
  | 0 => ⟨before, last⟩
  | fuel + 1 =>
    let piece := text.take size
    if piece.isEmpty then ⟨before, last⟩
    else if piece.all isAllowed then
      addPieces (before ++ piece) last pieceSize (text.drop size) fuel
    else ⟨before, some .malformed⟩

/-- A text with what comes after it, which is a fault unless the text ends there. -/
def ofText (last : Option Fault) (text : Chars) : Source :=
  addPieces [] last (2 * pieceSize) text (text.length + 1)

end Source

end CellWeave.Yaml
