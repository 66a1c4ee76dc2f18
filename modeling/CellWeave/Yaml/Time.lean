import CellWeave.Calendar
import CellWeave.Decimal.Text
/-!
# Times as they are written

A day is a year of four digits, a month and a day of the month with hyphens between them. A time on
a day follows it after a `T` or blanks, and may end in its offset from universal time.
-/

namespace CellWeave.Yaml.Time

/-- A run of `least` to `most` digits, and what is after it. -/
def digitRun? (least most : Nat) (text : Chars) : Option (Nat × Chars) :=
  let digits := (text.take most).takeWhile Char.isDigit
  if digits.length < least then none
  else some (Decimal.natOfDigits 10 digits, text.drop digits.length)

def after? (c : Char) (text : Chars) : Option Chars :=
  match text with
  | first :: rest => if first = c then some rest else none
  | [] => none

def isBlank (c : Char) : Bool :=
  c = ' ' || c = '\t'

/-- Millionths of a second from the digits after the point. -/
def microOf (digits : Chars) : Nat :=
  let kept := digits.take 6
  Decimal.natOfDigits 10 (kept ++ List.replicate (6 - kept.length) '0')

/-- The offset at the end of a time: nothing, `Z`, or hours and minutes with a sign. -/
def zone? (text : Chars) : Option (Option Int) :=
  match text with
  | [] => some none
  | _ =>
    match text.dropWhile isBlank with
    | ['Z'] => some (some 0)
    | sign :: rest => do
      if sign ≠ '+' ∧ sign ≠ '-' then failure
      let (hours, rest) ← digitRun? 1 2 rest
      let (minutes, rest) ← match rest with
        | ':' :: rest => digitRun? 2 2 rest
        | rest => some (0, rest)
      if rest ≠ [] then failure
      let seconds : Int := hours * 3600 + minutes * 60
      return some (if sign = '-' then -seconds else seconds)
    | [] => none

/-- The time on a day, from the mark or the blanks after the day on. -/
def timeOn? (day : Day) (text : Chars) : Option Moment := do
  let rest ← match text with
    | 'T' :: rest => some rest
    | 't' :: rest => some rest
    | c :: _ => if isBlank c then some (text.dropWhile isBlank) else none
    | [] => none
  let (hour, rest) ← digitRun? 1 2 rest
  let (minute, rest) ← digitRun? 2 2 (← after? ':' rest)
  let (second, rest) ← digitRun? 2 2 (← after? ':' rest)
  let (micro, rest) : Nat × Chars := match rest with
    | '.' :: rest => (microOf (rest.takeWhile Char.isDigit), rest.dropWhile Char.isDigit)
    | rest => (0, rest)
  let zone ← zone? rest
  return ⟨day, hour, minute, second, micro, zone⟩

/-- A day, or a time on a day. -/
def read? (text : Chars) : Option (Day ⊕ Moment) := do
  let (year, rest) ← digitRun? 4 4 text
  let (month, rest) ← digitRun? 1 2 (← after? '-' rest)
  let (day, rest) ← digitRun? 1 2 (← after? '-' rest)
  if rest = [] then return .inl ⟨year, month, day⟩
  return .inr (← timeOn? ⟨year, month, day⟩ rest)

/-- Whether a text has the form of a time. A day alone has two digits for its month and two for
itself. -/
def isTime (text : Chars) : Bool :=
  match read? text with
  | none => false
  | some (.inl _) => text.length = 10
  | some (.inr _) => true

end CellWeave.Yaml.Time
