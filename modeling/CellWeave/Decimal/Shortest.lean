/-!
# The fewest digits that read back

A finite binary number is `significand * 2 ^ exponent`. The reals that round to it lie between the
two halfway points to its neighbours, ends included exactly when the significand is even. Of the
decimals in that interval the ones with the fewest digits are taken, of those the nearest to the
number, and of two that are equally near the one with the even last digit.
-/

namespace CellWeave.Decimal

/-- `narrowBelow` says that the neighbour below is half as far away as the one above. -/
structure Binary where
  significand : Nat
  exponent : Int
  narrowBelow : Bool

/-- The decimal `digits * 10 ^ exponent`. -/
structure Digits where
  digits : Nat
  exponent : Int
  deriving DecidableEq

/-- A non-negative fraction that need not be in lowest terms. -/
structure Ratio where
  top : Nat
  bottom : Nat

namespace Binary

/-- The number behind the bits of a finite float, its sign left out. -/
def ofBits (bits : UInt64) : Binary :=
  let biased := ((bits >>> 52) &&& 0x7FF).toNat
  let fraction := (bits &&& 0xFFFFFFFFFFFFF).toNat
  if biased = 0 then ⟨fraction, -1074, false⟩
  else ⟨0x10000000000000 + fraction, biased - 1075, fraction = 0 && biased > 1⟩

/-- `quarters / 4` units in the last place of the number. -/
def ratio (number : Binary) (quarters : Nat) : Ratio :=
  ⟨quarters * Nat.pow 2 (number.exponent - 2).toNat, Nat.pow 2 (2 - number.exponent).toNat⟩

end Binary

/-- `ratio / 10 ^ exponent`. -/
def Ratio.scaled (ratio : Ratio) (exponent : Int) : Ratio :=
  ⟨ratio.top * Nat.pow 10 (-exponent).toNat, ratio.bottom * Nat.pow 10 exponent.toNat⟩

def compareTo (digits : Digits) (ratio : Ratio) : Ordering :=
  let scaled := ratio.scaled digits.exponent
  compare (digits.digits * scaled.bottom) scaled.top

def Binary.readsBack (number : Binary) (digits : Digits) : Bool :=
  let quarters := 4 * number.significand
  let low := number.ratio (if number.narrowBelow then quarters - 1 else quarters - 2)
  let high := number.ratio (quarters + 2)
  let closed := number.significand % 2 == 0
  let aboveLow := compareTo digits low
  let belowHigh := compareTo digits high
  (aboveLow == .gt || closed && aboveLow == .eq) && (belowHigh == .lt || closed && belowHigh == .eq)

/-- The least `k` from `start` on with `value < 10 ^ k`, looked for in at most `fuel` steps. -/
def scaleFrom (value : Ratio) (start : Int) : Nat → Int
  | 0 => start
  | fuel + 1 =>
    let scaled := value.scaled start
    if scaled.top < scaled.bottom then start else scaleFrom value (start + 1) fuel

/-- The decimal with `count` digits that reads back and is nearest to the number. -/
def Binary.nearest? (number : Binary) (scale : Int) (count : Nat) : Option Digits :=
  let exponent := scale - count
  let value := (number.ratio (4 * number.significand)).scaled exponent
  let below := value.top / value.bottom
  let low : Digits := ⟨below, exponent⟩
  let high : Digits := ⟨below + 1, exponent⟩
  match number.readsBack low, number.readsBack high with
  | false, false => none
  | true, false => some low
  | false, true => some high
  | true, true =>
    match compare (2 * value.top) ((2 * below + 1) * value.bottom) with
    | .lt => some low
    | .gt => some high
    | .eq => some (if below % 2 = 0 then low else high)

/-- Moves trailing zeros into the exponent, at most `fuel` of them. -/
def Digits.strip (digits : Digits) : Nat → Digits
  | 0 => digits
  | fuel + 1 =>
    if digits.digits ≠ 0 ∧ digits.digits % 10 = 0 then
      strip ⟨digits.digits / 10, digits.exponent + 1⟩ fuel
    else digits

/-- Seventeen digits always read back; the exact value stands in should none be found. -/
def Binary.shortest (number : Binary) : Digits :=
  if number.significand = 0 then ⟨0, 0⟩
  else
    let value := number.ratio (4 * number.significand)
    let scale := scaleFrom value (-324) 640
    let exact : Digits :=
      ⟨value.top * Nat.pow 5 (2 - number.exponent).toNat, min 0 (number.exponent - 2)⟩
    let found := (List.range 17).findSome? fun n ↦ number.nearest? scale (n + 1)
    (found.getD exact).strip 400

end CellWeave.Decimal
