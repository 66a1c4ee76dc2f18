import CellWeave.Calendar
import CellWeave.Decimal.Numeral
import CellWeave.Text.Quoted
/-!
# Faults in YAML texts

Most faults only say that a text is no YAML document with values that are known here. The others
name an escape that is no code point, or a scalar that has the form or the tag of a number, a truth
value or a time and is none. `unread` is no fault of a text, but says that the reading goes on after
what is there of it.
-/

namespace CellWeave.Yaml

inductive Fault where
  | malformed
  | unread
  | noCodePoint
  | hugeCodePoint
  | notInteger (numeral : Text) (base : Nat)
  | longInteger (digits : Nat)
  | notFloat (numeral : Text)
  | emptyNumber
  | hugeUnit
  | notTruth (word : Text)
  | notTime
  | timeInMap
  | calendar (fault : CalendarFault)
  | endless
  deriving DecidableEq

namespace Fault

/-- Of a long numeral only the beginning is shown. -/
def integerMessage (numeral : Text) (base : Nat) : String :=
  s!"invalid literal for int() with base {base}: " ++ String.ofList (numeral.quoted.take 200)

def message : Fault → String
  | malformed => "not a readable document"
  | unread => "not read to the end"
  | noCodePoint => "chr() arg not in range(0x110000)"
  | hugeCodePoint => "Python int too large to convert to C int"
  | notInteger numeral base => integerMessage numeral base
  | longInteger digits =>
    s!"Exceeds the limit ({Decimal.mostDigits} digits) for integer string conversion: " ++
      s!"value has {digits} digits; use sys.set_int_max_str_digits() to increase the limit"
  | notFloat numeral =>
    "could not convert string to float: " ++ String.ofList numeral.quoted
  | emptyNumber => "string index out of range"
  | hugeUnit => "int too large to convert to float"
  | notTruth word => String.ofList word.quoted
  | notTime => "'NoneType' object has no attribute 'groupdict'"
  | timeInMap => "expected string or bytes-like object, got 'list'"
  | calendar fault => fault.message
  | endless => "maximum recursion depth exceeded"

/-- A numeral that could not be read to a base. -/
def ofNumeral (numeral : Text) (base : Nat) : Decimal.NumeralFault → Fault
  | .malformed => notInteger numeral base
  | .tooLong digits => longInteger digits

end Fault

end CellWeave.Yaml
