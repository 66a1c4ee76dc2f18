import CellWeave.Text
import CellWeave.Text.Printable
/-!
# Quoted text

Text or bytes as one line between quotes. Single quotes are used unless the text has a single quote
and no double quote. A backslash, the quote in use and whatever is not printable are escaped.
-/

namespace CellWeave

namespace Text

def quoteMark (text : Text) : Char :=
  if text.contains (.char '\x27') && !text.contains (.char '\x22') then '\x22' else '\x27'

/-- The last `width` hexadecimal digits, in lower case. -/
def hexDigits (width code : Nat) : Chars :=
  match width with
  | 0 => []
  | width + 1 => hexDigits width (code / 16) ++ [Nat.digitChar (code % 16)]

def codeEscape (code : Nat) : Chars :=
  if code < 0x100 then '\\' :: 'x' :: hexDigits 2 code
  else if code < 0x10000 then '\\' :: 'u' :: hexDigits 4 code
  else '\\' :: 'U' :: hexDigits 8 code

def escapeChar (mark c : Char) : Chars :=
  if c = mark ∨ c = '\\' then ['\\', c]
  else if c = '\n' then ['\\', 'n']
  else if c = '\r' then ['\\', 'r']
  else if c = '\t' then ['\\', 't']
  else if isPrintable c then [c]
  else codeEscape c.toNat

def escapePoint (mark : Char) : CodePoint → Chars
  | .char c => escapeChar mark c
  | .surrogate half => codeEscape (CodePoint.surrogate half).toNat

def quoted (text : Text) : Chars :=
  let mark := quoteMark text
  mark :: text.flatMap (escapePoint mark) ++ [mark]

/-- Bytes as quoted text with a letter before it. Bytes that stand for no ASCII character are
escaped. -/
def quotedBytes (bytes : List UInt8) : Chars :=
  let text := bytes.map fun byte ↦ Char.ofNat byte.toNat
  let mark := quoteMark (.ofChars text)
  let escape (c : Char) := if c.toNat < 0x80 then escapeChar mark c else codeEscape c.toNat
  'b' :: mark :: text.flatMap escape ++ [mark]

end Text

end CellWeave
