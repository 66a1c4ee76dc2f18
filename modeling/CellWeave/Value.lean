import CellWeave.Calendar
import CellWeave.Decimal.Numeral
import CellWeave.Slots
import CellWeave.Text.Quoted
/-!
# Values of settings

Whatever a settings file may hold under a key. A setting takes the text of its value: text as it is,
and every other value as it is written out inside a list, where text is quoted.
-/

namespace CellWeave

/-- A `float` is a number or an infinity. Values that are not a number differ by where they come
from. `outerList` and `outerMap` stand for a list or a map inside itself. -/
inductive Value where
  | null
  | bool (value : Bool)
  | int (value : Int)
  | float (value : Float)
  | notNumber (origin : Nat)
  | text (value : Text)
  | bytes (value : List UInt8)
  | day (value : Day)
  | moment (value : Moment)
  | list (items : List Value)
  | map (entries : List (Value × Value))
  | set (members : List Value)
  | pair (first second : Value)
  | outerList
  | outerMap

/-- A number in a value has too many digits, or values stand inside each other too deep. -/
inductive WriteFault where
  | hugeInteger
  | tooDeep
  deriving DecidableEq

namespace Value

def ofFloat (value : Float) (origin : Nat) : Value :=
  if value.isNaN then notNumber origin else float value

/-- Texts with a comma and a space between neighbours. -/
def listed : List Chars → Chars
  | [] => []
  | [item] => item
  | item :: rest => item ++ ',' :: ' ' :: listed rest

mutual

/-- The text of a value inside another. -/
def nested : Value → Chars
  | null => "None".toList
  | bool value => (if value then "True" else "False").toList
  | int value => (toString value).toList
  | float value => Decimal.showFloat value
  | notNumber _ => "nan".toList
  | text value => value.quoted
  | bytes value => Text.quotedBytes value
  | day value => value.parts.toList
  | moment value => value.parts.toList
  | list items => '[' :: listed (nestedItems items) ++ [']']
  | map entries => '\x7b' :: listed (nestedEntries entries) ++ ['\x7d']
  | set [] => "set()".toList
  | set (first :: rest) => '\x7b' :: listed (nested first :: nestedItems rest) ++ ['\x7d']
  | pair first second => '(' :: listed [nested first, nested second] ++ [')']
  | outerList => "[...]".toList
  | outerMap => "\x7b...\x7d".toList

def nestedItems : List Value → List Chars
  | [] => []
  | item :: rest => nested item :: nestedItems rest

def nestedEntries : List (Value × Value) → List Chars
  | [] => []
  | (key, value) :: rest => (nested key ++ ':' :: ' ' :: nested value) :: nestedEntries rest

end

/-- The text of a value on its own. -/
def shown : Value → Text
  | text value => value
  | day value => .ofString value.shown
  | moment value => .ofString value.shown
  | value => .ofChars (nested value)

/-! ## Values that cannot be written -/

/-- The levels that a time takes to write, with its zone inside it and an offset inside that. -/
def momentDepth (moment : Moment) : Nat :=
  match moment.zone with
  | none => 1
  | some seconds => if seconds = 0 then 2 else 3

mutual

/-- What is met first if a value is written inside another, with room for so many levels. The
members of a set are written as a list inside it. -/
def nestedFault? (room : Nat) (value : Value) : Option WriteFault :=
  match room, value with
  | 0, _ => some .tooDeep
  | _ + 1, int value => if Decimal.isWritable value then none else some .hugeInteger
  | room + 1, moment value => if momentDepth value ≤ room + 1 then none else some .tooDeep
  | room + 1, list items => faultIn? room items
  | room + 1, map entries => faultOfEntries? room entries
  | _ + 1, set [] => none
  | 1, set (_ :: _) => some .tooDeep
  | room + 2, set (first :: rest) => (nestedFault? room first).or (faultIn? room rest)
  | room + 1, pair first second => (nestedFault? room first).or (nestedFault? room second)
  | _ + 1, _ => none

def faultIn? (room : Nat) : List Value → Option WriteFault
  | [] => none
  | item :: rest => (nestedFault? room item).or (faultIn? room rest)

def faultOfEntries? (room : Nat) : List (Value × Value) → Option WriteFault
  | [] => none
  | (key, value) :: rest =>
    (nestedFault? room key).or <| (nestedFault? room value).or (faultOfEntries? room rest)

end

/-- What is met first if a value is written on its own. A text is there as it is. -/
def writeFault? (room : Nat) : Value → Option WriteFault
  | text _ => none
  | day _ | moment _ => if room = 0 then some .tooDeep else none
  | value => nestedFault? room value

/-! ## Keys -/

/-- A truth value counts as the number 1 or 0. -/
def whole? : Value → Option Int
  | bool value => some (if value then 1 else 0)
  | int value => some value
  | _ => none

/-- Whether a float is this whole number, exactly. -/
def floatIs (value : Float) (n : Int) : Bool :=
  !value.isInf && (value < 0) == (n < 0) &&
    (let number := Decimal.Binary.ofBits value.toBits
     number.significand * Nat.pow 2 number.exponent.toNat ==
       n.natAbs * Nat.pow 2 (-number.exponent).toNat)

/-- Whether two keys of a map are one. Numbers are compared by what they are worth. -/
def sameKey : Value → Value → Bool
  | null, null => true
  | text a, text b => a == b
  | bytes a, bytes b => a == b
  | day a, day b => a == b
  | moment a, moment b => a.same b
  | notNumber a, notNumber b => a == b
  | float a, float b => a == b
  | float a, b => b.whole?.any (floatIs a)
  | a, float b => a.whole?.any (floatIs b)
  | a, b => a.whole?.isSome && a.whole? == b.whole?

/-- Writes an entry; under a key that is there it keeps the key and its place. -/
def setEntry (entries : List (Value × Value)) (key value : Value) : List (Value × Value) :=
  match entries with
  | [] => [(key, value)]
  | entry :: rest =>
    if sameKey entry.1 key then (entry.1, value) :: rest else entry :: setEntry rest key value

def ofEntries (entries : List (Value × Value)) : Value :=
  .map (entries.foldl (fun before entry ↦ setEntry before entry.1 entry.2) [])

def isText (value : Value) (name : String) : Bool :=
  sameKey value (.text (.ofString name))

/-- What a map holds under a text key. -/
def get? (value : Value) (name : String) : Option Value :=
  match value with
  | map entries => (entries.find? fun entry ↦ entry.1.isText name).map (·.2)
  | _ => none

/-! ## Sets -/

/-- What number codes are taken modulo. -/
def codeModulus : Nat :=
  0x1FFFFFFFFFFFFFFF

/-- A size with a sign as a word of 64 bits. Minus one is no code. -/
def signedCode (isNegative : Bool) (size : Nat) : Nat :=
  if !isNegative || size = 0 then size
  else if size = 1 then 0xFFFFFFFFFFFFFFFE
  else 0x10000000000000000 - size

/-- The code of a number: what it is worth modulo `codeModulus`, of which 2 is a root of 1. -/
def code? : Value → Option Nat
  | bool value => some (if value then 1 else 0)
  | int value => some (signedCode (value < 0) (value.natAbs % codeModulus))
  | float value =>
    if value.isInf then some (signedCode (value < 0) 314159)
    else
      let number := Decimal.Binary.ofBits value.toBits
      let power := Nat.pow 2 (number.exponent % 61).toNat
      some (signedCode (value < 0) (number.significand * power % codeModulus))
  | _ => none

/-- A set of numbers lists them by their codes, and any other set in the order of its members. -/
def ofMembers (members : List Value) : Value :=
  if members.all (·.code?.isSome) then .set (Slots.arrange (·.code?.getD 0) members)
  else .set members

end Value

end CellWeave
