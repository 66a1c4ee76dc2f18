import CellWeave.Yaml.Cursor
/-!
# Scalars as they are written

Plain, quoted and block scalars give their text here; what a plain scalar means is settled later.
The functions below that go through a text piece by piece are given fuel, which the length of the
text bounds.
-/

namespace CellWeave.Yaml.Scalar

open Scan

/-! ## Plain scalars -/

def isFlowMark (c : Char) : Bool :=
  c = ',' || c = '[' || c = ']' || c = '\x7b' || c = '\x7d'

def endsPlain (inFlow : Bool) (c : Char) (following : Option Char) : Bool :=
  isBlank c || isBreak c ||
    c = ':' && (endsWord following || inFlow && following.any isFlowMark) ||
    inFlow && (c = '?' || isFlowMark c)

/-- The run of characters up to the end of a plain word. -/
def wordOf (inFlow : Bool) : Chars → Chars
  | [] => []
  | c :: rest => if endsPlain inFlow c rest.head? then [] else c :: wordOf inFlow rest

/-- A plain word, which may be empty. After a colon the next character is looked at too. -/
def plainWord (inFlow : Bool) : Scan Chars := do
  if (← peek) = some '#' then return []
  let word := wordOf inFlow (← get).rest
  if (← peekAt word.length) = some ':' then
    let _ ← peekAt (word.length + 1)
  return word

/-- Line breaks and the spaces between them, or `none` if a document mark comes up. -/
def plainBreaks : Nat → Scan (Option Chars)
  | 0 => return some []
  | fuel + 1 => do
    if ← accept ' ' then plainBreaks fuel
    else if ← isAt isBreak then
      let first ← lineBreak
      if ← atDocumentMark then return none
      return (← plainBreaks fuel).map (first ++ ·)
    else return some []

/-- What a break and the breaks after it are folded into. -/
def foldBreaks (first breaks : Chars) : Chars :=
  if first ≠ ['\n'] then first ++ breaks
  else if breaks.isEmpty then [' ']
  else breaks

/-- The space between two plain words, and whether a line ended in it. -/
def plainSpace : Scan (Chars × Bool) := do
  let spaces ← takeWhile (· = ' ')
  if !(← isAt isBreak) then return (spaces, false)
  let first ← lineBreak
  if ← atDocumentMark then return ([], true)
  match ← plainBreaks (← fuel) with
  | none => return ([], true)
  | some breaks => return (foldBreaks first breaks, true)

/-- Whether a plain scalar ends after a space. Lines that are indented less than `indent` are not
part of it. -/
def endsAfter (inFlow : Bool) (indent : Int) (space : Chars) : Scan Bool := do
  if space.isEmpty then return true
  if (← peek) = some '#' then return true
  return !inFlow && ((← get).column : Int) < indent

/-- The words of a plain scalar with the space `before` them, and whether a line ended last. -/
def plainFrom (inFlow : Bool) (indent : Int) (before : Chars) : Nat → Scan (Chars × Bool)
  | 0 => return ([], false)
  | fuel + 1 => do
    let word ← plainWord inFlow
    if word.isEmpty then return ([], false)
    skip word.length
    let (space, isBroken) ← plainSpace
    if ← endsAfter inFlow indent space then return (before ++ word, isBroken)
    let (words, isBrokenLater) ← plainFrom inFlow indent space fuel
    return (before ++ word ++ words, if words.isEmpty then isBroken else isBrokenLater)

def plain (inFlow : Bool) (indent : Int) : Scan (Chars × Bool) := do
  plainFrom inFlow indent [] (← fuel)

/-! ## Quoted scalars -/

/-- What a character after a backslash stands for. -/
def escapes : List (Char × Char) :=
  [('0', '\x00'), ('a', '\x07'), ('b', '\x08'), ('t', '\t'), ('\t', '\t'), ('n', '\n'),
    ('v', '\x0b'), ('f', '\x0c'), ('r', '\r'), ('e', '\x1b'), (' ', ' '), ('\x22', '\x22'),
    ('\\', '\\'), ('/', '/'), ('N', '\x85'), ('_', '\xa0'), ('L', '\u2028'), ('P', '\u2029')]

def escapeWidths : List (Char × Nat) :=
  [('x', 2), ('u', 4), ('U', 8)]

/-- The breaks and blanks from here to the next character that is neither. -/
def quotedBreaks : Nat → Scan Chars
  | 0 => malformed
  | fuel + 1 => do
    if ← atDocumentMark then malformed
    skipWhile isBlank
    if ← isAt isBreak then
      let first ← lineBreak
      return first ++ (← quotedBreaks fuel)
    else return []

/-- The code point of an escape with `width` digits. -/
def codeEscape (width : Nat) : Scan CodePoint := do
  let code ← peekHex width
  if code > 0x7FFFFFFF then throw .hugeCodePoint
  match CodePoint.ofNat? code with
  | none => throw .noCodePoint
  | some point =>
    skip width
    return point

/-- One escape, the backslash already read. -/
def escape : Scan Text := do
  match ← peek with
  | none => malformed
  | some c =>
    match escapes.lookup c, escapeWidths.lookup c with
    | some meant, _ =>
      skip 1
      return [.char meant]
    | none, some width =>
      skip 1
      return [← codeEscape width]
    | none, none =>
      if !isBreak c then malformed
      let _ ← lineBreak
      return .ofChars (← quotedBreaks (← fuel))

def isQuotedWord (c : Char) : Bool :=
  !(c = '\x27' || c = '\x22' || c = '\\' || isBlank c || isBreak c)

/-- A quote or a backslash that is text, or what an escape stands for, if one comes next. -/
def quotedMark? (isDouble : Bool) : Scan (Option Text) := do
  match ← peek with
  | some '\x27' =>
    if isDouble then
      skip 1
      return some [.char '\x27']
    else if (← peekAt 1) = some '\x27' then
      skip 2
      return some [.char '\x27']
    else return none
  | some '\x22' =>
    if isDouble then return none
    skip 1
    return some [.char '\x22']
  | some '\\' =>
    skip 1
    if isDouble then return some (← escape) else return some [.char '\\']
  | _ => return none

/-- Characters and escapes up to a blank, a break or the closing quote. -/
def quotedWord (isDouble : Bool) : Nat → Scan Text
  | 0 => malformed
  | fuel + 1 => do
    let word := Text.ofChars (← takeWhile isQuotedWord)
    match ← quotedMark? isDouble with
    | none => return word
    | some mark => return word ++ mark ++ (← quotedWord isDouble fuel)

/-- The space between two words of a quoted scalar, which must not end in it. -/
def quotedSpace : Scan Chars := do
  let blanks ← takeWhile isBlank
  match ← peek with
  | none => malformed
  | some c =>
    if !isBreak c then return blanks
    let first ← lineBreak
    return foldBreaks first (← quotedBreaks (← fuel))

/-- The rest of a quoted scalar after its first word, up to the closing quote. -/
def quotedRest (isDouble : Bool) : Nat → Scan Text
  | 0 => malformed
  | fuel + 1 => do
    if ← accept (if isDouble then '\x22' else '\x27') then return []
    let space := Text.ofChars (← quotedSpace)
    let word ← quotedWord isDouble (← Scan.fuel)
    return space ++ word ++ (← quotedRest isDouble fuel)

/-- A quoted scalar, from its opening quote on. -/
def quoted (isDouble : Bool) : Scan Text := do
  skip 1
  let word ← quotedWord isDouble (← fuel)
  return word ++ (← quotedRest isDouble (← fuel))

/-! ## Block scalars -/

/-- Which of the breaks at its end a block scalar keeps. -/
inductive Chomping where
  | strip
  | clip
  | keep
  deriving DecidableEq

def chomping? : Scan (Option Chomping) := do
  if ← accept '+' then return some .keep
  if ← accept '-' then return some .strip
  return none

def increment? : Scan (Option Nat) := do
  match (← peek).filter Char.isDigit with
  | none => return none
  | some '0' => malformed
  | some digit =>
    skip 1
    return some (Decimal.digitValue digit)

/-- The marks after the sign of a block scalar, in either order. -/
def blockHeader : Scan (Chomping × Option Nat) := do
  let header ←
    match ← chomping? with
    | some chomping => pure (chomping, ← increment?)
    | none =>
      match ← increment? with
      | some increment => pure ((← chomping?).getD .clip, some increment)
      | none => pure (.clip, none)
  if !endsName (← peek) then malformed
  return header

/-- The breaks before the first line of a block scalar, and the deepest column reached. -/
def blockIndentation (deepest : Nat) : Nat → Scan (Chars × Nat)
  | 0 => return ([], deepest)
  | fuel + 1 => do
    if ← accept ' ' then blockIndentation (max deepest (← get).column) fuel
    else if ← isAt isBreak then
      let first ← lineBreak
      let (breaks, deepest) ← blockIndentation deepest fuel
      return (first ++ breaks, deepest)
    else return ([], deepest)

/-- Goes past spaces, but not beyond a column. -/
def skipIndent (indent : Nat) : Scan Unit := do
  let cursor ← get
  let spaces := cursor.rest.takeWhile (· = ' ')
  skip (min spaces.length (indent - cursor.column))

/-- Empty lines, each with no more than `indent` spaces. -/
def blockBreaks (indent : Nat) : Nat → Scan Chars
  | 0 => return []
  | fuel + 1 => do
    skipIndent indent
    if ← isAt isBreak then
      let first ← lineBreak
      return first ++ (← blockBreaks indent fuel)
    else return []

/-- The text of a block scalar up to its last line, the break that ended that line, and the breaks
after it. -/
structure Block where
  text : Chars
  lastBreak : Chars
  tail : Chars

def Block.chomped (block : Block) : Chomping → Chars
  | .strip => block.text
  | .clip => block.text ++ block.lastBreak
  | .keep => block.text ++ block.lastBreak ++ block.tail

/-- Whether a line of a block scalar comes next. -/
def isAtLine (indent : Nat) : Scan Bool := do
  if (← get).column = indent then return (← peek).isSome else return false

/-- The lines of a block scalar, `breaks` before the first of them. -/
def blockLines (isFolded : Bool) (indent : Nat) (breaks : Chars) : Nat → Scan Block
  | 0 => return ⟨[], [], breaks⟩
  | fuel + 1 => do
    let isFlush := !(← isAt isBlank)
    let line ← takeWhile (!isBreak ·)
    let lastBreak ← lineBreak
    let later ← blockBreaks indent (← Scan.fuel)
    if ← isAtLine indent then
      let isJoined := isFolded && lastBreak = ['\n'] && isFlush && !(← isAt isBlank)
      let joint := if !isJoined then lastBreak else if later.isEmpty then [' '] else []
      let block ← blockLines isFolded indent later fuel
      return { block with text := breaks ++ line ++ joint ++ block.text }
    else return ⟨breaks ++ line, lastBreak, later⟩

/-- A block scalar, from its sign on, in a block that is indented by `indent`. -/
def block (isFolded : Bool) (indent : Int) : Scan Chars := do
  skip 1
  let (chomping, increment) ← blockHeader
  emptyLine
  let least := (max (indent + 1) 1).toNat
  let (breaks, column) ←
    match increment with
    | none => do
      let (breaks, deepest) ← blockIndentation 0 (← fuel)
      pure (breaks, max least deepest)
    | some increment => do
      let column := least + increment - 1
      pure (← blockBreaks column (← fuel), column)
  let block ←
    if ← isAtLine column then blockLines isFolded column breaks (← fuel)
    else pure ⟨[], [], breaks⟩
  return block.chomped chomping

end CellWeave.Yaml.Scalar
