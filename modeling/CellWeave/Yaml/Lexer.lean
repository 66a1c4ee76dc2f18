import CellWeave.Yaml.Token
/-!
# The tokens of a text

A token that may begin a key is known to do so only when a colon is read, so the tokens of a key are
put in front of it afterwards. Such a key has to be on one line and no longer than 1024 characters.
As long as it is possible no one gets to see it, so a fault in the text after it is met before it.
-/

namespace CellWeave.Yaml

/-- A token that may turn out to begin a key. A `required` one begins a line of an open block, where
nothing but a key can stand. -/
structure PossibleKey where
  place : Nat
  required : Bool
  index : Nat
  line : Nat
  column : Nat

/-- What is known between two tokens. The possible keys are kept by depth of flow collections. -/
structure Lexer where
  cursor : Cursor
  tokens : Array Token
  flowDepth : Nat
  indent : Int
  outerIndents : List Int
  keyAllowed : Bool
  possibleKeys : List (Nat × PossibleKey)

namespace Lexer

def start (source : Source) : Lexer :=
  ⟨Cursor.start source, #[], 0, -1, [], true, []⟩

def inFlow (lexer : Lexer) : Bool :=
  lexer.flowDepth > 0

def push (lexer : Lexer) (token : Token) : Lexer :=
  { lexer with tokens := lexer.tokens.push token }

def insert (lexer : Lexer) (place : Nat) (token : Token) : Lexer :=
  { lexer with tokens := lexer.tokens.insertIdxIfInBounds place token }

/-- Scans from the cursor on. -/
def scan {α : Type} (lexer : Lexer) (step : Scan α) : Except Fault (α × Lexer) := do
  let (result, cursor) ← step.run lexer.cursor
  return (result, { lexer with cursor })

/-- Reads `width` characters as one token. -/
def take (lexer : Lexer) (width : Nat) (token : Token) : Except Fault Lexer := do
  let (_, lexer) ← lexer.scan (Scan.skip width)
  return lexer.push token

/-- Whether the next token may begin a key. -/
def allowKey (lexer : Lexer) (keyAllowed : Bool) : Lexer :=
  { lexer with keyAllowed }

/-! ## Indentation -/

/-- Ends the blocks that are indented deeper than `column`. -/
def closeBlocks (lexer : Lexer) (column : Int) : Lexer :=
  if lexer.inFlow then lexer else go lexer lexer.outerIndents
where
  go (lexer : Lexer) : List Int → Lexer
    | [] => lexer
    | outer :: rest =>
      if lexer.indent > column then
        go { lexer.push .blockEnd with indent := outer, outerIndents := rest } rest
      else lexer

/-- Begins a block at `column` unless one is open there, with `token` at `place`. -/
def openBlock (lexer : Lexer) (column place : Nat) (token : Token) : Lexer :=
  if lexer.inFlow || lexer.indent ≥ column then lexer
  else
    { lexer.insert place token with
      indent := column
      outerIndents := lexer.indent :: lexer.outerIndents }

/-! ## Possible keys -/

def isStale (lexer : Lexer) (key : PossibleKey) : Bool :=
  key.line ≠ lexer.cursor.line || lexer.cursor.index - key.index > 1024

/-- Gives up the keys that can no longer be finished. -/
def dropStaleKeys (lexer : Lexer) : Except Fault Lexer :=
  if lexer.possibleKeys.any fun (_, key) ↦ lexer.isStale key && key.required then
    .error .malformed
  else
    .ok { lexer with
      possibleKeys := lexer.possibleKeys.filter fun (_, key) ↦ !lexer.isStale key }

def dropKey (lexer : Lexer) : Except Fault Lexer :=
  match lexer.possibleKeys.lookup lexer.flowDepth with
  | none => .ok lexer
  | some key =>
    if key.required then .error .malformed
    else .ok { lexer with possibleKeys := lexer.possibleKeys.filter (·.1 ≠ lexer.flowDepth) }

/-- The next token may begin a key, where keys are allowed. -/
def noteKey (lexer : Lexer) : Except Fault Lexer :=
  if lexer.keyAllowed then do
    let required := !lexer.inFlow && lexer.indent = lexer.cursor.column
    let lexer ← lexer.dropKey
    let key : PossibleKey :=
      { place := lexer.tokens.size
        required := required
        index := lexer.cursor.index
        line := lexer.cursor.line
        column := lexer.cursor.column }
    return { lexer with possibleKeys := (lexer.flowDepth, key) :: lexer.possibleKeys }
  else .ok lexer

/-! ## Space between tokens -/

/-- Goes past spaces, comments and breaks, and past a byte order mark before all else. Says whether
there was a break. -/
def space (lineEnded : Bool) : Nat → Scan Bool
  | 0 => return lineEnded
  | fuel + 1 => do
    if (← get).index = 0 then
      let _ ← Scan.accept '\uFEFF'
    Scan.skipSpaces
    Scan.skipComment
    if (← Scan.lineBreak).isEmpty then return lineEnded else space true fuel

/-- After a break outside flow collections a key may come. -/
def skipSpace (lexer : Lexer) : Except Fault Lexer := do
  let (lineEnded, lexer) ← lexer.scan do space false (← Scan.fuel)
  return lexer.allowKey (lexer.keyAllowed || lineEnded && !lexer.inFlow)

/-! ## One token -/

/-- Ends all blocks before a directive or a document mark. -/
def endDocument (lexer : Lexer) : Except Fault Lexer := do
  let lexer ← (lexer.closeBlocks (-1)).dropKey
  return lexer.allowKey false

def fetchDirective (lexer : Lexer) : Except Fault Lexer := do
  let (token, lexer) ← (← lexer.endDocument).scan Token.scanDirective
  return lexer.push token

def fetchMark (lexer : Lexer) (token : Token) : Except Fault Lexer := do
  (← lexer.endDocument).take 3 token

def fetchFlowStart (lexer : Lexer) (token : Token) : Except Fault Lexer := do
  let lexer ← lexer.noteKey
  let inner := { lexer with flowDepth := lexer.flowDepth + 1, keyAllowed := true }
  inner.take 1 token

/-- A closing bracket, which has no place outside flow collections. -/
def fetchFlowEnd (lexer : Lexer) (token : Token) : Except Fault Lexer := do
  let inner ← lexer.dropKey
  let outer := { inner with flowDepth := inner.flowDepth - 1, keyAllowed := false }
  let after ← outer.take 1 token
  if !lexer.inFlow then throw .malformed
  return after

def fetchFlowEntry (lexer : Lexer) : Except Fault Lexer := do
  ((← lexer.dropKey).allowKey true).take 1 .flowEntry

def fetchEntry (lexer : Lexer) : Except Fault Lexer := do
  if !lexer.inFlow && !lexer.keyAllowed then throw .malformed
  let lexer := lexer.openBlock lexer.cursor.column lexer.tokens.size .sequenceStart
  ((← lexer.dropKey).allowKey true).take 1 .entry

def fetchKey (lexer : Lexer) : Except Fault Lexer := do
  if !lexer.inFlow && !lexer.keyAllowed then throw .malformed
  let lexer := lexer.openBlock lexer.cursor.column lexer.tokens.size .mappingStart
  ((← lexer.dropKey).allowKey !lexer.inFlow).take 1 .key

/-- A colon makes the possible key before it a key. -/
def fetchValue (lexer : Lexer) : Except Fault Lexer :=
  match lexer.possibleKeys.lookup lexer.flowDepth with
  | some key =>
    let lexer := { lexer with
      possibleKeys := lexer.possibleKeys.filter (·.1 ≠ lexer.flowDepth) }
    let lexer := lexer.insert key.place .key
    let lexer := lexer.openBlock key.column key.place .mappingStart
    (lexer.allowKey false).take 1 .value
  | none =>
    if !lexer.inFlow && !lexer.keyAllowed then .error .malformed
    else
      let lexer := lexer.openBlock lexer.cursor.column lexer.tokens.size .mappingStart
      (lexer.allowKey !lexer.inFlow).take 1 .value

/-- A token that may begin a key and after which none may. -/
def fetchKeyPart (lexer : Lexer) (step : Scan Token) : Except Fault Lexer := do
  let (token, lexer) ← (← lexer.noteKey).scan step
  return (lexer.push token).allowKey false

def fetchBlockScalar (lexer : Lexer) (isFolded : Bool) : Except Fault Lexer := do
  let lexer ← lexer.dropKey
  let (text, lexer) ← lexer.scan (Scalar.block isFolded lexer.indent)
  return (lexer.push (.scalar (.ofChars text) false)).allowKey true

def fetchPlain (lexer : Lexer) : Except Fault Lexer := do
  let lexer ← lexer.noteKey
  let ((text, isBroken), lexer) ← lexer.scan (Scalar.plain lexer.inFlow (lexer.indent + 1))
  return (lexer.push (.scalar (.ofChars text) true)).allowKey isBroken

/-- What the next token is, as far as its first characters tell. -/
inductive Start where
  | directive
  | documentStart
  | documentEnd
  | entry
  | key
  | value
  | plain
  | mark (c : Char)

/-- Looks no further than it takes to tell. -/
def startAt (inFlow : Bool) (c : Char) : Scan Start := do
  if (← get).column = 0 then
    if c = '%' then return .directive
    if c = '-' then
      if ← Scan.atDocumentMark then return .documentStart
    if c = '.' then
      if ← Scan.atDocumentMark then return .documentEnd
  if "[]\x7b\x7d,*&!\x27\x22".toList.contains c || !inFlow && (c = '|' || c = '>') then
    return .mark c
  if inFlow && c = '?' then return .key
  if inFlow && c = ':' then return .value
  if isBlank c || isBreak c || "-?:#|>%@\x60".toList.contains c then
    let isAlone := endsWord (← Scan.peekAt 1)
    if c = '-' then return if isAlone then .entry else .plain
    if c = '?' then return if isAlone then .key else .plain
    if c = ':' then return if isAlone then .value else .plain
    Scan.malformed
  return .plain

/-- The token that begins with `c`. -/
def fetch (lexer : Lexer) (c : Char) : Except Fault Lexer := do
  let (start, _) ← lexer.scan (startAt lexer.inFlow c)
  match start with
  | .directive => lexer.fetchDirective
  | .documentStart => lexer.fetchMark .documentStart
  | .documentEnd => lexer.fetchMark .documentEnd
  | .entry => lexer.fetchEntry
  | .key => lexer.fetchKey
  | .value => lexer.fetchValue
  | .plain => lexer.fetchPlain
  | .mark '[' => lexer.fetchFlowStart .flowSequenceStart
  | .mark '\x7b' => lexer.fetchFlowStart .flowMappingStart
  | .mark ']' => lexer.fetchFlowEnd .flowSequenceEnd
  | .mark '\x7d' => lexer.fetchFlowEnd .flowMappingEnd
  | .mark ',' => lexer.fetchFlowEntry
  | .mark '*' => lexer.fetchKeyPart (.alias <$> Token.scanAnchor)
  | .mark '&' => lexer.fetchKeyPart (.anchor <$> Token.scanAnchor)
  | .mark '!' => lexer.fetchKeyPart Token.scanTag
  | .mark '|' => lexer.fetchBlockScalar false
  | .mark '>' => lexer.fetchBlockScalar true
  | .mark c => lexer.fetchKeyPart ((.scalar · false) <$> Scalar.quoted (c = '\x22'))

/-- Adds the next token and what has to come before it. Says whether there was one. -/
def step (lexer : Lexer) : Except Fault (Bool × Lexer) := do
  let lexer ← (← lexer.skipSpace).dropStaleKeys
  let lexer := lexer.closeBlocks lexer.cursor.column
  let (first, lexer) ← lexer.scan Scan.peek
  match first with
  | none => return (false, ← lexer.endDocument)
  | some c => return (true, ← lexer.fetch c)

/-- The number of tokens before the first that may still turn out to begin a key. -/
def settledCount (lexer : Lexer) : Nat :=
  lexer.possibleKeys.foldl (fun count (_, key) ↦ min count key.place) lexer.tokens.size

/-- The tokens up to the end of the text or the first fault. A fault is met in front of the first
possible key. Every token takes at least one character, so the length of the text bounds their
number. -/
def run (lexer : Lexer) : Nat → Array Token × Option Fault
  | 0 => (lexer.tokens, some .malformed)
  | fuel + 1 =>
    match lexer.dropStaleKeys with
    | .error fault => (lexer.tokens.extract 0 lexer.settledCount, some fault)
    | .ok lexer =>
      match lexer.step with
      | .error fault => (lexer.tokens.extract 0 lexer.settledCount, some fault)
      | .ok (true, lexer) => lexer.run fuel
      | .ok (false, lexer) => (lexer.tokens, none)

end Lexer

/-- The tokens of a text and, if not all of it could be read, the fault after them. -/
def tokens (source : Source) : List Token × Option Fault :=
  let (tokens, fault) := (Lexer.start source).run (source.text.length + 1)
  (tokens.toList, fault)

end CellWeave.Yaml
