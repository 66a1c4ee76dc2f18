import CellWeave.Decimal.Text
import CellWeave.Text.Numeral
/-!
# Numerals

A numeral is read to a base, with space around it and a sign before it. A numeral to base 2, 8 or 16
may begin with a zero and the letter of its base. To base 10 the number of digits is limited.
-/

namespace CellWeave.Decimal

/-- The most digits that a decimal numeral may have. -/
def mostDigits : Nat :=
  4300

inductive NumeralFault where
  | malformed
  | tooLong (digits : Nat)
  deriving DecidableEq

def baseLetters : List (Nat × Char) :=
  [(2, 'b'), (8, 'o'), (16, 'x')]

def dropBaseLetter (base : Nat) (text : Chars) : Chars :=
  match text with
  | '0' :: letter :: rest =>
    if baseLetters.lookup base = some letter.toLower then rest else text
  | _ => text

def isDigitTo (base : Nat) (c : Char) : Bool :=
  isHexDigit c && digitValue c < base

/-- Digits are counted before what comes after them is looked at. -/
def readNat (base : Nat) (text : Chars) : Except NumeralFault Nat :=
  let text := dropBaseLetter base text
  let digits := text.takeWhile (isDigitTo base)
  if base = 10 ∧ digits.length > mostDigits then .error (.tooLong digits.length)
  else if digits.isEmpty ∨ digits.length < text.length then .error .malformed
  else .ok (natOfDigits base digits)

def readInt (base : Nat) (numeral : Text) : Except NumeralFault Int :=
  match Text.trimSpaces numeral.plainNumeral with
  | '-' :: rest => (readNat base rest).map fun size ↦ -size
  | '+' :: rest => (readNat base rest).map Int.ofNat
  | rest => (readNat base rest).map Int.ofNat

/-- The float nearest to a numeral with a point or an exponent, or the one that it names. -/
def floatOf? (numeral : Text) : Option Float :=
  readFloat? (Text.trimSpaces numeral.plainNumeral)

/-- Whether a number can be written with the digits that a numeral may have. -/
def isWritable (value : Int) : Bool :=
  value.natAbs < Nat.pow 10 mostDigits

end CellWeave.Decimal
