import CellWeave.Decimal.Shortest
import CellWeave.Text
/-!
# Decimal numbers as text

A number is written with the fewest digits that read back: positionally while the exponent of its
leading digit is from -4 to 15, with at least one digit on each side of the point, and otherwise
with a signed exponent of at least two digits.
-/

namespace CellWeave.Decimal

def ofNat (n : Nat) : Chars :=
  (toString n).toList

def zeros (count : Nat) : Chars :=
  List.replicate count '0'

def positional (digits : Chars) (leading : Int) : Chars :=
  if leading < 0 then '0' :: '.' :: zeros (-leading - 1).toNat ++ digits
  else
    let width := leading.toNat + 1
    let whole := digits.take width ++ zeros (width - digits.length)
    let rest := digits.drop width
    whole ++ '.' :: (if rest.isEmpty then ['0'] else rest)

def scientific (digits : Chars) (leading : Int) : Chars :=
  let point := if digits.length > 1 then '.' :: digits.drop 1 else []
  let size := ofNat leading.natAbs
  digits.take 1 ++ point ++ 'e' :: (if leading < 0 then '-' else '+') ::
    zeros (2 - size.length) ++ size

def Digits.shown (number : Digits) : Chars :=
  let digits := ofNat number.digits
  let leading := number.exponent + digits.length - 1
  if number.digits = 0 then positional digits 0
  else if -4 ≤ leading ∧ leading < 16 then positional digits leading
  else scientific digits leading

def showFloat (number : Float) : Chars :=
  let bits := number.toBits
  let sign : Chars := if bits >>> 63 = 1 then ['-'] else []
  if number.isNaN then "nan".toList
  else if number.isInf then sign ++ "inf".toList
  else sign ++ (Binary.ofBits bits).shortest.shown

/-! ## Reading -/

def isHexDigit (c : Char) : Bool :=
  c.isDigit || 'a' ≤ c && c ≤ 'f' || 'A' ≤ c && c ≤ 'F'

def digitValue (c : Char) : Nat :=
  if c.isDigit then c.toNat - '0'.toNat
  else if 'a' ≤ c ∧ c ≤ 'f' then c.toNat - 'a'.toNat + 10
  else c.toNat - 'A'.toNat + 10

def natOfDigits (base : Nat) (digits : Chars) : Nat :=
  digits.foldl (fun value c ↦ value * base + digitValue c) 0

/-- The float nearest to `digits * 10 ^ exponent`, where no float is as large as `10 ^ 310` and none
but zero as small as `10 ^ -400`. -/
def toFloat (digits : Nat) (exponent : Int) : Float :=
  let size := exponent + (ofNat digits).length
  if digits = 0 ∨ size < -400 then 0.0
  else if size > 310 then 1.0 / 0.0
  else if exponent < 0 then Float.ofScientific digits true (-exponent).toNat
  else Float.ofScientific digits false exponent.toNat

/-- Digits with at most one point among them, and an optional exponent. -/
def readSize? (text : Chars) : Option Float :=
  let whole := text.takeWhile Char.isDigit
  let rest := text.dropWhile Char.isDigit
  let (fraction, rest) : Chars × Chars := match rest with
    | '.' :: rest => (rest.takeWhile Char.isDigit, rest.dropWhile Char.isDigit)
    | rest => ([], rest)
  let exponent : Option Int := match rest with
    | [] => some 0
    | mark :: rest =>
      let (signed, digits) : Bool × Chars := match rest with
        | '-' :: rest => (true, rest)
        | '+' :: rest => (false, rest)
        | rest => (false, rest)
      if (mark = 'e' ∨ mark = 'E') ∧ digits ≠ [] ∧ digits.all Char.isDigit then
        let size : Int := natOfDigits 10 digits
        some (if signed then -size else size)
      else none
  let digits := whole ++ fraction
  if digits.isEmpty then none
  else exponent.map fun exponent ↦ toFloat (natOfDigits 10 digits) (exponent - fraction.length)

/-- The numbers without digits. -/
def namedSize? (text : Chars) : Option Float :=
  let name := String.ofList (text.map Char.toLower)
  if name = "inf" ∨ name = "infinity" then some (1.0 / 0.0)
  else if name = "nan" then some (0.0 / 0.0)
  else none

/-- A number or the name of one, with an optional sign. -/
def readFloat? (text : Chars) : Option Float :=
  let (negative, text) : Bool × Chars := match text with
    | '-' :: rest => (true, rest)
    | '+' :: rest => (false, rest)
    | rest => (false, rest)
  ((namedSize? text).or (readSize? text)).map fun size ↦ if negative then -size else size

end CellWeave.Decimal
