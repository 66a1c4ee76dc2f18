import CellWeave.Text
import CellWeave.Yaml.Time
/-!
# Kinds of nodes

A tag names the kind of a node. Without one the form of a plain scalar settles its kind: nothing and
a tilde are null, `yes` and its like are truth values, and integers may be binary, octal,
hexadecimal or to base 60. What has none of the forms is text.
-/

namespace CellWeave.Yaml

/-- A node of an unknown kind has no value. -/
inductive Kind where
  | null
  | truth
  | integer
  | float
  | time
  | text
  | binary
  | mergeKey
  | valueKey
  | sequence
  | orderedMap
  | pairs
  | set
  | mapping
  | unknown
  deriving DecidableEq

/-- The parts of a list before, between and after its marks. -/
def partsAt {α : Type} [DecidableEq α] (mark : α) : List α → List (List α)
  | [] => [[]]
  | a :: rest =>
    if a = mark then [] :: partsAt mark rest else (partsAt mark rest).modifyHead (a :: ·)

/-- The text without one feed at its end. -/
def dropFinalFeed (text : Chars) : Chars :=
  if text.getLast? = some '\n' then text.dropLast else text

namespace Kind

/-- The names of kinds in tags. -/
def named : List (String × Kind) :=
  [("null", .null), ("bool", .truth), ("int", .integer), ("float", .float), ("timestamp", .time),
    ("str", .text), ("binary", .binary), ("merge", .mergeKey), ("value", .valueKey),
    ("seq", .sequence), ("omap", .orderedMap), ("pairs", .pairs), ("set", .set), ("map", .mapping)]

def ofTag (tag : Chars) : Kind :=
  let full := named.map fun (name, kind) ↦ ("tag:yaml.org,2002:" ++ name, kind)
  (full.lookup (String.ofList tag)).getD .unknown

/-! ## Forms of plain scalars -/

def isDigits (text : Chars) : Bool :=
  !text.isEmpty && text.all Char.isDigit

def isDigitOrLow (c : Char) : Bool :=
  c.isDigit || c = '_'

def withoutSign (text : Chars) : Chars :=
  match text with
  | '-' :: rest => rest
  | '+' :: rest => rest
  | rest => rest

/-- A digit, or two of which the first is less than 6. -/
def isSixtieth (text : Chars) : Bool :=
  match text with
  | [a] => a.isDigit
  | [a, b] => '0' ≤ a && a ≤ '5' && b.isDigit
  | _ => false

def isTruth (text : Chars) : Bool :=
  ["yes", "Yes", "YES", "no", "No", "NO", "true", "True", "TRUE", "false", "False", "FALSE", "on",
    "On", "ON", "off", "Off", "OFF"].contains (String.ofList text)

def isNull (text : Chars) : Bool :=
  ["~", "null", "Null", "NULL", ""].contains (String.ofList text)

def isInteger (text : Chars) : Bool :=
  match withoutSign text with
  | [] => false
  | ['0'] => true
  | '0' :: 'b' :: rest => !rest.isEmpty && rest.all fun c ↦ c = '0' || c = '1' || c = '_'
  | '0' :: 'x' :: rest => !rest.isEmpty && rest.all fun c ↦ Decimal.isHexDigit c || c = '_'
  | '0' :: rest => rest.all fun c ↦ '0' ≤ c && c ≤ '7' || c = '_'
  | first :: rest =>
    first.isDigit &&
      match partsAt ':' (first :: rest) with
      | [whole] => whole.all isDigitOrLow
      | whole :: sixtieths => whole.all isDigitOrLow && sixtieths.all isSixtieth
      | [] => false

/-- Nothing, or an exponent with its sign. -/
def isExponent (text : Chars) : Bool :=
  match text with
  | [] => true
  | mark :: sign :: digits =>
    (mark = 'e' || mark = 'E') && (sign = '+' || sign = '-') && isDigits digits
  | _ => false

def isFloat (text : Chars) : Bool :=
  let body := withoutSign text
  let special := String.ofList body
  let isSigned := body.length < text.length
  if [".inf", ".Inf", ".INF"].contains special then true
  else if [".nan", ".NaN", ".NAN"].contains special then !isSigned
  else
    match body with
    | [] => false
    | '.' :: rest =>
      !isSigned && (rest.headD ' ').isDigit && isExponent (rest.dropWhile isDigitOrLow)
    | first :: _ =>
      first.isDigit &&
        match partsAt ':' body with
        | [_] =>
          match body.dropWhile isDigitOrLow with
          | '.' :: rest => isExponent (rest.dropWhile isDigitOrLow)
          | _ => false
        | whole :: sixtieths =>
          let last := sixtieths.getLastD []
          whole.all isDigitOrLow && sixtieths.dropLast.all isSixtieth &&
            last.contains '.' && isSixtieth (last.takeWhile (· ≠ '.')) &&
            ((last.dropWhile (· ≠ '.')).drop 1).all isDigitOrLow
        | [] => false

/-- The kind of a plain scalar, its form without a feed at the end. -/
def ofForm (form : Chars) : Kind :=
  if isTruth form then .truth
  else if isFloat form then .float
  else if isInteger form then .integer
  else if form = ['<', '<'] then .mergeKey
  else if isNull form then .null
  else if Time.isTime form then .time
  else if form = ['='] then .valueKey
  else if form = ['!'] ∨ form = ['&'] ∨ form = ['*'] then .unknown
  else .text

/-- The kind of a plain scalar. One feed at its end does not count, unless it stands alone. -/
def ofPlain (text : Text) : Kind :=
  match text.toChars? with
  | none => .text
  | some text => if text.head? = some '\n' then .text else ofForm (dropFinalFeed text)

end Kind

end CellWeave.Yaml
