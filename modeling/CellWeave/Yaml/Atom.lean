import CellWeave.Text.Base64
import CellWeave.Text.Lower
import CellWeave.Value
import CellWeave.Yaml.Fault
import CellWeave.Yaml.Kind
/-!
# Values of scalars

A scalar of a kind has the value that its text stands for, in more forms than those that settle the
kind of a plain scalar: a tag may call any text a number.
-/

namespace CellWeave.Yaml.Atom

/-! ## Numbers -/

def withoutUnderscores (text : Text) : Text :=
  text.filter (· ≠ .char '_')

/-- Whether a minus sign comes first, and what is after a sign. -/
def splitSign (text : Text) : Except Fault (Bool × Text) :=
  match text with
  | [] => .error .emptyNumber
  | .char '-' :: rest => .ok (true, rest)
  | .char '+' :: rest => .ok (false, rest)
  | rest => .ok (false, rest)

def readInt (base : Nat) (numeral : Text) : Except Fault Int :=
  (Decimal.readInt base numeral).mapError (Fault.ofNumeral numeral base)

def readFloat (numeral : Text) : Except Fault Float :=
  match Decimal.floatOf? numeral with
  | some value => .ok value
  | none => .error (.notFloat numeral)

/-- The size of an integer: to base 2, 16 or 8 if it begins with a zero, and else to base 10, where
parts between colons are digits to base 60. -/
def integerSize (body : Text) : Except Fault Int :=
  match body with
  | [] => .error .emptyNumber
  | [.char '0'] => .ok 0
  | .char '0' :: .char 'b' :: rest => readInt 2 rest
  | .char '0' :: .char 'x' :: rest => readInt 16 rest
  | .char '0' :: _ => readInt 8 body
  | _ => do
    let digits ← (partsAt (.char ':') body).mapM (readInt 10)
    return digits.foldl (fun total digit ↦ total * 60 + digit) 0

def integer (text : Text) : Except Fault Value := do
  let (isNegative, body) ← splitSign (withoutUnderscores text)
  let size ← integerSize body
  return .int (if isNegative then -size else size)

/-- Adds up digits to base 60, the last one first. Each unit has to be a float. -/
def addSixties (total : Float) (unit : Nat) : List Float → Except Fault Float
  | [] => .ok total
  | digit :: rest =>
    let size := Decimal.toFloat unit 0
    if size.isInf then .error .hugeUnit
    else addSixties (total + digit * size) (unit * 60) rest

def floatSize (body : Text) : Except Fault Float := do
  match ← (partsAt (.char ':') body).mapM readFloat with
  | [whole] => return whole
  | digits => addSixties 0.0 1 digits.reverse

/-- A number that is computed and is none has the place of its scalar as its origin; all that are
written as such have one origin. -/
def float (place : Nat) (text : Text) : Except Fault Value := do
  let (isNegative, body) ← splitSign (withoutUnderscores text).toLower
  if body = .ofString ".nan" then return .notNumber 0
  let size ← if body = .ofString ".inf" then pure (1.0 / 0.0) else floatSize body
  return .ofFloat (if isNegative then -size else size) (place + 1)

/-! ## Other scalars -/

def truth (text : Text) : Except Fault Value :=
  let word := text.toLower
  if ["yes", "true", "on"].any (.ofString · = word) then .ok (.bool true)
  else if ["no", "false", "off"].any (.ofString · = word) then .ok (.bool false)
  else .error (.notTruth word)

/-- A feed at the end does not count. -/
def time (text : Text) : Except Fault Value :=
  match text.toChars?.bind fun text ↦ Time.read? (dropFinalFeed text) with
  | none => .error .notTime
  | some (.inl day) => day.check.map Value.day |>.mapError .calendar
  | some (.inr moment) => moment.check.map Value.moment |>.mapError .calendar

def binary (text : Text) : Except Fault Value :=
  match text.toChars?.filter (·.all fun c ↦ c.toNat < 0x80) |>.bind Text.decodeBase64? with
  | some bytes => .ok (.bytes bytes)
  | none => .error .malformed

/-- The value of a scalar of a kind; `place` tells it from other scalars. -/
def value (kind : Kind) (place : Nat) (text : Text) : Except Fault Value :=
  match kind with
  | .null => .ok .null
  | .truth => truth text
  | .integer => integer text
  | .float => float place text
  | .time => time text
  | .text => .ok (.text text)
  | .binary => binary text
  | _ => .error .malformed

end CellWeave.Yaml.Atom
