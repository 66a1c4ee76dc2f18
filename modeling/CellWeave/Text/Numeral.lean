import CellWeave.Text
/-!
# Digits and spaces of all scripts

A numeral may be written with the digits of any script, which stand in runs from zero to nine, and
with any space around it. Numbers are read from its form with plain digits and spaces.
-/

namespace CellWeave

namespace Text

/-- The digits for zero outside the first 127 characters. -/
def zeroDigits : List Nat := [
  0x660, 0x6f0, 0x7c0, 0x966, 0x9e6, 0xa66, 0xae6, 0xb66, 0xbe6, 0xc66, 0xce6, 0xd66, 0xde6,
  0xe50, 0xed0, 0xf20, 0x1040, 0x1090, 0x17e0, 0x1810, 0x1946, 0x19d0, 0x1a80, 0x1a90, 0x1b50,
  0x1bb0, 0x1c40, 0x1c50, 0xa620, 0xa8d0, 0xa900, 0xa9d0, 0xa9f0, 0xaa50, 0xabf0, 0xff10, 0x104a0,
  0x10d30, 0x11066, 0x110f0, 0x11136, 0x111d0, 0x112f0, 0x11450, 0x114d0, 0x11650, 0x116c0, 0x11730,
  0x118e0, 0x11950, 0x11c50, 0x11d50, 0x11da0, 0x16a60, 0x16ac0, 0x16b50, 0x1d7ce, 0x1d7d8, 0x1d7e2,
  0x1d7ec, 0x1d7f6, 0x1e140, 0x1e2f0, 0x1e950, 0x1fbf0]

/-- The spaces outside the first 127 characters. -/
def wideSpaces : List Nat := [
  0x85, 0xa0, 0x1680, 0x2000, 0x2001, 0x2002, 0x2003, 0x2004, 0x2005, 0x2006, 0x2007, 0x2008,
  0x2009, 0x200a, 0x2028, 0x2029, 0x202f, 0x205f, 0x3000]

def isPlainSpace (c : Char) : Bool :=
  c = ' ' || '\t' ≤ c && c ≤ '\r'

/-- A digit or a space in its plain form, and nothing for other characters outside the first 127. -/
def plainForm? (c : Char) : Option Char :=
  if c.toNat < 127 then some c
  else if wideSpaces.contains c.toNat then some ' '
  else
    (zeroDigits.find? fun start ↦ start ≤ c.toNat && c.toNat < start + 10).map fun start ↦
      Nat.digitChar (c.toNat - start)

/-- The text without plain spaces at its ends. -/
def trimSpaces (text : Chars) : Chars :=
  ((text.dropWhile isPlainSpace).reverse.dropWhile isPlainSpace).reverse

/-- The plain form of a numeral. At a code point without one it ends with a question mark, which no
number has in it. -/
def plainNumeral : Text → Chars
  | [] => []
  | point :: rest =>
    match point.toChar?.bind plainForm? with
    | some c => c :: plainNumeral rest
    | none => ['?']

end Text

end CellWeave
