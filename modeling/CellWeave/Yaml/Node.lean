import CellWeave.Yaml.Kind
import CellWeave.Yaml.Lexer
/-!
# Nodes

The tokens of a text make up one document, and the document is a graph of nodes, which are named by
their places in a list. An alias stands for the node that its anchor was put on, which may be a node
around it; an anchor may be used once. Collections may be in one another, but not too deep.
-/

namespace CellWeave.Yaml

inductive Content where
  | scalar (text : Text)
  | sequence (items : List Nat)
  | mapping (entries : List (Nat × Nat))

structure Node where
  kind : Kind
  content : Content

/-- A document; `root` is the place of the node around all others. -/
structure Graph where
  nodes : Array Node
  root : Nat

/-- How many collections may be in one another, the outermost one included. -/
def mostNested : Nat := 490

/-- What is left to be parsed, the fault after it, the handles and the places of anchors that are
known, the nodes so far, and the number of collections around the next token. -/
structure Parser where
  tokens : List Token
  fault : Option Fault
  handles : List (Chars × Chars)
  anchors : List (Chars × Nat)
  nodes : Array Node
  depth : Nat

abbrev Parse (α : Type) := StateT Parser (Except Fault) α

namespace Parse

def malformed {α : Type} : Parse α :=
  throw .malformed

/-- The next token; `none` at the end of the text. -/
def peek : Parse (Option Token) := do
  let parser ← get
  match parser.tokens, parser.fault with
  | token :: _, _ => return some token
  | [], some fault => throw fault
  | [], none => return none

def skip : Parse Unit :=
  modify fun parser ↦ { parser with tokens := parser.tokens.drop 1 }

/-- Takes the next token if it is this one. -/
def accept (token : Token) : Parse Bool := do
  if (← peek) = some token then
    skip
    return true
  else return false

def expect (token : Token) : Parse Unit := do
  if !(← accept token) then malformed

/-- Whether the next token is one of these. -/
def isNext (tokens : List Token) : Parse Bool := do
  return (← peek).any tokens.contains

/-! ## New nodes -/

def add (node : Node) : Parse Nat := do
  let parser ← get
  set { parser with nodes := parser.nodes.push node }
  return parser.nodes.size

def fill (place : Nat) (content : Content) : Parse Unit :=
  modify fun parser ↦ { parser with
    nodes := parser.nodes.modify place fun node ↦ { node with content } }

/-- What is written where nothing is written. -/
def empty : Parse Nat :=
  add ⟨.null, .scalar []⟩

def anchor? : Parse (Option Chars) := do
  match ← peek with
  | some (.anchor name) =>
    skip
    return some name
  | _ => return none

/-- A tag with its handle, which is looked up later. -/
def writtenTag? : Parse (Option (Option Chars × Chars)) := do
  match ← peek with
  | some (.tag handle suffix) =>
    skip
    return some (handle, suffix)
  | _ => return none

/-- The full name of a tag. -/
def resolveTag (tag : Option (Option Chars × Chars)) : Parse (Option Chars) := do
  match tag with
  | none => return none
  | some (none, suffix) => return some suffix
  | some (some handle, suffix) =>
    match (← get).handles.lookup handle with
    | some start => return some (start ++ suffix)
    | none => malformed

/-- The anchor and the tag of a node, in either order. -/
def properties : Parse (Option Chars × Option Chars) := do
  match ← anchor? with
  | some anchor => return (some anchor, ← resolveTag (← writtenTag?))
  | none =>
    match ← writtenTag? with
    | none => return (none, none)
    | some tag =>
      let anchor ← anchor?
      return (anchor, ← resolveTag tag)

/-- A tag of its own settles the kind of a node. An exclamation mark is no such tag. -/
def kindOf (tag : Option Chars) (untagged : Kind) : Kind :=
  match tag.filter (· ≠ ['!']) with
  | some tag => .ofTag tag
  | none => untagged

def scalarNode (tag : Option Chars) (text : Text) (isPlain : Bool) : Node :=
  let untagged := if isPlain || tag.isSome then Kind.ofPlain text else .text
  ⟨kindOf tag untagged, .scalar text⟩

/-- What a node turns out to be when its first token is read. -/
inductive Shape where
  | scalar (text : Text) (isPlain : Bool)
  | looseSequence
  | sequence
  | mapping
  | flowSequence
  | flowMapping

/-- Reads the shape of a node. In a block a block may begin, and as the value of a key also a
sequence that is not indented deeper than the key. Nothing is a node if it `isMarked` by an anchor
or a tag. -/
def shape (inBlock besideKey isMarked : Bool) : Parse Shape := do
  match ← peek with
  | some (.scalar text isPlain) =>
    skip
    return .scalar text isPlain
  | some .flowSequenceStart => return .flowSequence
  | some .flowMappingStart => return .flowMapping
  | next =>
    if besideKey && next = some .entry then return .looseSequence
    else if inBlock && next = some .sequenceStart then return .sequence
    else if inBlock && next = some .mappingStart then return .mapping
    else if isMarked then return .scalar [] true
    else malformed

/-- Adds a node under its anchor. -/
def addAnchored (anchor : Option Chars) (node : Node) : Parse Nat := do
  match anchor with
  | none => add node
  | some name =>
    if ((← get).anchors.lookup name).isSome then malformed
    let place ← add node
    modify fun parser ↦ { parser with anchors := (name, place) :: parser.anchors }
    return place

/-- Reads what is in a collection. -/
def nested {α : Type} (contents : Parse α) : Parse α := do
  let depth := (← get).depth
  if depth = mostNested then throw .endless
  modify fun parser ↦ { parser with depth := depth + 1 }
  let result ← contents
  modify fun parser ↦ { parser with depth }
  return result

/-! ## Nodes with what is in them -/

mutual

/-- One node, which is known by its anchor before what is in it is read. -/
def node (inBlock besideKey : Bool) : Nat → Parse Nat
  | 0 => malformed
  | fuel + 1 => do
    if let some (.alias name) ← peek then
      skip
      match (← get).anchors.lookup name with
      | some place => return place
      | none => malformed
    else
      let (anchor, tag) ← properties
      match ← shape inBlock besideKey (anchor.isSome || tag.isSome) with
      | .scalar text isPlain => addAnchored anchor (scalarNode tag text isPlain)
      | .looseSequence =>
        let place ← addAnchored anchor ⟨kindOf tag .sequence, .sequence []⟩
        fill place (.sequence (← nested (looseItems fuel)))
        return place
      | .sequence =>
        let place ← addAnchored anchor ⟨kindOf tag .sequence, .sequence []⟩
        skip
        fill place (.sequence (← nested (items fuel)))
        return place
      | .flowSequence =>
        let place ← addAnchored anchor ⟨kindOf tag .sequence, .sequence []⟩
        skip
        fill place (.sequence (← nested (flowItems true fuel)))
        return place
      | .mapping =>
        let place ← addAnchored anchor ⟨kindOf tag .mapping, .mapping []⟩
        skip
        fill place (.mapping (← nested (pairs fuel)))
        return place
      | .flowMapping =>
        let place ← addAnchored anchor ⟨kindOf tag .mapping, .mapping []⟩
        skip
        fill place (.mapping (← nested (flowPairs true fuel)))
        return place

/-- The entries of a block sequence up to its end. -/
def items : Nat → Parse (List Nat)
  | 0 => malformed
  | fuel + 1 => do
    if ← accept .entry then
      let item ← if ← isNext [.entry, .blockEnd] then empty else node true false fuel
      return item :: (← items fuel)
    else
      expect .blockEnd
      return []

/-- The entries of a sequence that is not indented. -/
def looseItems : Nat → Parse (List Nat)
  | 0 => malformed
  | fuel + 1 => do
    if ← accept .entry then
      let item ←
        if ← isNext [.entry, .key, .value, .blockEnd] then empty else node true false fuel
      return item :: (← looseItems fuel)
    else return []

/-- The entries of a block mapping up to its end. -/
def pairs : Nat → Parse (List (Nat × Nat))
  | 0 => malformed
  | fuel + 1 => do
    if ← accept .key then
      let key ← blockPart fuel
      let value ← if ← accept .value then blockPart fuel else empty
      return (key, value) :: (← pairs fuel)
    else
      expect .blockEnd
      return []

/-- A key or a value in a block mapping. -/
def blockPart : Nat → Parse Nat
  | 0 => malformed
  | fuel + 1 => do
    if ← isNext [.key, .value, .blockEnd] then empty else node true true fuel

/-- The entries of a flow sequence up to its end. A pair in it is a mapping of its own. -/
def flowItems (isFirst : Bool) : Nat → Parse (List Nat)
  | 0 => malformed
  | fuel + 1 => do
    if ← accept .flowSequenceEnd then return []
    if !isFirst then expect .flowEntry
    if ← accept .key then
      let place ← add ⟨.mapping, .mapping []⟩
      let entry ← nested do
        let key ← flowPart [.value, .flowEntry, .flowSequenceEnd] fuel
        let value ←
          if ← accept .value then flowPart [.flowEntry, .flowSequenceEnd] fuel else empty
        return (key, value)
      fill place (.mapping [entry])
      return place :: (← flowItems false fuel)
    else if ← accept .flowSequenceEnd then return []
    else
      let item ← node false false fuel
      return item :: (← flowItems false fuel)

/-- The entries of a flow mapping up to its end. A node without a colon is a key without a value. -/
def flowPairs (isFirst : Bool) : Nat → Parse (List (Nat × Nat))
  | 0 => malformed
  | fuel + 1 => do
    if ← accept .flowMappingEnd then return []
    if !isFirst then expect .flowEntry
    if ← accept .key then
      let key ← flowPart [.value, .flowEntry, .flowMappingEnd] fuel
      let value ←
        if ← accept .value then flowPart [.flowEntry, .flowMappingEnd] fuel else empty
      return (key, value) :: (← flowPairs false fuel)
    else if ← accept .flowMappingEnd then return []
    else
      let key ← node false false fuel
      let value ← empty
      return (key, value) :: (← flowPairs false fuel)

/-- A key or a value in a flow collection, which is empty before one of the tokens `ends`. -/
def flowPart (ends : List Token) : Nat → Parse Nat
  | 0 => malformed
  | fuel + 1 => do
    if ← isNext ends then empty else node false false fuel

end

/-! ## Documents -/

def defaultHandles : List (Chars × Chars) :=
  [(['!'], ['!']), (['!', '!'], "tag:yaml.org,2002:".toList)]

/-- The directives before a document: at most one version, which has to be a first one, and each
handle at most once. -/
def directives (hasVersion : Bool) (handles : List (Chars × Chars)) :
    Nat → Parse (List (Chars × Chars))
  | 0 => malformed
  | fuel + 1 => do
    match ← peek with
    | some (.version major _) =>
      skip
      if hasVersion || major ≠ 1 then malformed
      directives true handles fuel
    | some (.tagHandle handle start) =>
      skip
      if (handles.lookup handle).isSome then malformed
      directives hasVersion ((handle, start) :: handles) fuel
    | some .otherDirective =>
      skip
      directives hasVersion handles fuel
    | _ => return handles

def skipEnds : Nat → Parse Unit
  | 0 => return
  | fuel + 1 => do
    if ← accept .documentEnd then skipEnds fuel

def startsDocument : Option Token → Bool
  | some (.version ..) | some (.tagHandle ..) | some .otherDirective | some .documentStart => true
  | _ => false

/-- A document with directives or a mark before it. -/
def markedDocument (fuel : Nat) : Parse Nat := do
  let handles ← directives false [] fuel
  modify fun parser ↦ { parser with handles := handles ++ defaultHandles }
  expect .documentStart
  let next ← peek
  if next.isNone || startsDocument next || next = some .documentEnd then empty
  else node true false fuel

/-- The only document of a text, or `none` if there is none. The directives of a second one are read
before it is refused. -/
def document (fuel : Nat) : Parse (Option Nat) := do
  let first ← peek
  if first.isNone then return none
  let root ← if startsDocument first then markedDocument fuel else node true false fuel
  skipEnds fuel
  if (← peek).isSome then
    let _ ← directives false [] fuel
    malformed
  return some root

end Parse

/-- The document that a text holds. -/
def Graph.ofSource (source : Source) : Except Fault (Option Graph) := do
  let (tokens, fault) := Yaml.tokens source
  let parser : Parser :=
    { tokens, fault, handles := Parse.defaultHandles, anchors := [], nodes := #[], depth := 0 }
  let (root, parser) ← (Parse.document (4 * tokens.length + 8)).run parser
  return root.map fun root ↦ ⟨parser.nodes, root⟩

end CellWeave.Yaml
