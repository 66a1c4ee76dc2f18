import CellWeave.Yaml.Source
/-!
# Reading positions

A place in a YAML text: what is still to be read, how many characters came before it, and its line
and column. Besides the line feed the next line, line and paragraph separators end a line. A byte
order mark has no column of its own.

Every step that looks at characters asks for them first, which fails if they come after the end of
what could be read of the text. To go on by some characters is to ask for one more.
-/

namespace CellWeave.Yaml

def isBreak (c : Char) : Bool :=
  c = '\n' || c = '\r' || c = '\x85' || c = '\u2028' || c = '\u2029'

def isBlank (c : Char) : Bool :=
  c = ' ' || c = '\t'

/-- Whether a word ends before this character, or before the end of the text. -/
def endsWord : Option Char → Bool
  | none => true
  | some c => isBlank c || isBreak c

/-- Like `endsWord`, but a tab is no end. -/
def endsName : Option Char → Bool
  | none => true
  | some c => c = ' ' || isBreak c

def endsLine : Option Char → Bool
  | none => true
  | some c => isBreak c

/-- Letters, digits, hyphen and underscore. -/
def isNameChar (c : Char) : Bool :=
  c.isAlphanum || c = '-' || c = '_'

/-- `fault` is met by whoever asks for more characters than `rest` has. -/
structure Cursor where
  rest : Chars
  fault : Option Fault
  index : Nat
  line : Nat
  column : Nat

namespace Cursor

def start (source : Source) : Cursor :=
  ⟨source.text, source.fault, 0, 0, 0⟩

def next (cursor : Cursor) : Cursor :=
  match cursor.rest with
  | [] => cursor
  | c :: rest =>
    let cursor := { cursor with rest, index := cursor.index + 1 }
    if isBreak c && !(c = '\r' && rest.head? == some '\n') then
      { cursor with line := cursor.line + 1, column := 0 }
    else if c = '\uFEFF' then cursor
    else { cursor with column := cursor.column + 1 }

def skip (cursor : Cursor) : Nat → Cursor
  | 0 => cursor
  | n + 1 => cursor.next.skip n

end Cursor

/-- A step through a text from a cursor on. -/
abbrev Scan := StateT Cursor (Except Fault)

namespace Scan

def malformed {α : Type} : Scan α :=
  throw .malformed

/-- A number of steps that no walk through the rest of the text exceeds. -/
def fuel : Scan Nat := do
  return (← get).rest.length + 1

/-- Asks for characters. -/
def demand (count : Nat) : Scan Unit := do
  let cursor ← get
  if let some fault := cursor.fault then
    if cursor.rest.length < count then throw fault

def peekAt (distance : Nat) : Scan (Option Char) := do
  demand (distance + 1)
  return (← get).rest[distance]?

def peek : Scan (Option Char) :=
  peekAt 0

/-- Whether the next character satisfies `p`. -/
def isAt (p : Char → Bool) : Scan Bool := do
  return (← peek).any p

def skip (count : Nat) : Scan Unit := do
  demand (count + 1)
  modify (·.skip count)

/-- The longest run of characters that satisfy `p`. -/
def takeWhile (p : Char → Bool) : Scan Chars := do
  let taken := (← get).rest.takeWhile p
  skip taken.length
  return taken

def skipWhile (p : Char → Bool) : Scan Unit := do
  let _ ← takeWhile p

def skipSpaces : Scan Unit :=
  skipWhile (· = ' ')

/-- Goes past this character, if it comes next. -/
def accept (c : Char) : Scan Bool := do
  if (← peek) = some c then
    skip 1
    return true
  else return false

/-- Goes past a comment, if one begins here. -/
def skipComment : Scan Unit := do
  if (← peek) = some '#' then skipWhile (!isBreak ·)

/-- Reads one line break, if there is one. All of them but the two separators count as a feed. -/
def lineBreak : Scan Chars := do
  match ← peek with
  | none => return []
  | some c =>
    if c = '\u2028' ∨ c = '\u2029' then
      skip 1
      return [c]
    else if isBreak c then
      demand 2
      skip (if (← get).rest.take 2 = ['\r', '\n'] then 2 else 1)
      return ['\n']
    else return []

/-- Whether a line begins here with three hyphens or three points, and nothing glued to them. -/
def atDocumentMark : Scan Bool := do
  demand 3
  let mark := (← get).rest.take 3
  if mark = ['-', '-', '-'] ∨ mark = ['.', '.', '.'] then return endsWord (← peekAt 3)
  return false

/-- The number that the next `width` hexadecimal digits stand for. -/
def peekHex (width : Nat) : Scan Nat := do
  let digits := (← get).rest.take width
  if !digits.all Decimal.isHexDigit then malformed
  demand width
  if digits.length < width then malformed
  return Decimal.natOfDigits 16 digits

/-- The rest of a line on which nothing but a comment may stand. -/
def emptyLine : Scan Unit := do
  skipSpaces
  skipComment
  if !endsLine (← peek) then malformed
  let _ ← lineBreak

end Scan

end CellWeave.Yaml
