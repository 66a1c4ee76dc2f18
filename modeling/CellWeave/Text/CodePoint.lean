/-!
# Code points

A text may hold halves of surrogate pairs. They are code points but no characters: an escape can
name one, and a byte that is no text is kept as one.
-/

namespace CellWeave

/-- A half of a surrogate pair is counted from the first one. -/
inductive CodePoint where
  | char (c : Char)
  | surrogate (half : Fin 0x800)
  deriving DecidableEq

/-- What comes out of bytes that are a text, where there are no halves. -/
abbrev Chars := List Char

namespace CodePoint

instance : Coe Char CodePoint :=
  ⟨char⟩

/-- The code point of this number, if it is one. -/
def ofNat? (code : Nat) : Option CodePoint :=
  if h : 0xD800 ≤ code ∧ code < 0xE000 then some (.surrogate ⟨code - 0xD800, by omega⟩)
  else if code < 0x110000 then some (.char (Char.ofNat code))
  else none

def toNat : CodePoint → Nat
  | char c => c.toNat
  | surrogate half => 0xD800 + half

def toChar? : CodePoint → Option Char
  | char c => some c
  | surrogate _ => none

end CodePoint

end CellWeave
