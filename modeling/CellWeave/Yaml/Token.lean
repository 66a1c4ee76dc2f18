import CellWeave.Yaml.Scalar
/-!
# Tokens

What a YAML text is made of. A token tells no more than its own characters do; directives, anchors
and tags are read here.
-/

namespace CellWeave.Yaml

inductive Token where
  | version (major minor : Nat)
  | tagHandle (handle start : Chars)
  | otherDirective
  | documentStart
  | documentEnd
  | sequenceStart
  | mappingStart
  | blockEnd
  | flowSequenceStart
  | flowSequenceEnd
  | flowMappingStart
  | flowMappingEnd
  | entry
  | flowEntry
  | key
  | value
  | alias (name : Chars)
  | anchor (name : Chars)
  | tag (handle : Option Chars) (suffix : Chars)
  | scalar (text : Text) (isPlain : Bool)
  deriving DecidableEq

namespace Token

open Scan

def scanName : Scan Chars := do
  let name ← takeWhile isNameChar
  if name.isEmpty then malformed
  return name

def isUriChar (c : Char) : Bool :=
  c.isAlphanum || "-;/?:@&=+$,_.!~*\x27()[]".toList.contains c

/-- Bytes written as pairs of hexadecimal digits, each after a percent sign. -/
def percentBytes : Nat → Scan (List UInt8)
  | 0 => malformed
  | fuel + 1 => do
    if ← accept '%' then
      let byte ← peekHex 2
      skip 2
      return byte.toUInt8 :: (← percentBytes fuel)
    else return []

def uriFrom : Nat → Scan Chars
  | 0 => malformed
  | fuel + 1 => do
    let piece ← takeWhile isUriChar
    if (← peek) ≠ some '%' then return piece
    let bytes ← percentBytes (← Scan.fuel)
    match String.fromUTF8? ⟨bytes.toArray⟩ with
    | none => malformed
    | some text => return piece ++ text.toList ++ (← uriFrom fuel)

def scanUri : Scan Chars := do
  let uri ← uriFrom (← fuel)
  if uri.isEmpty then malformed
  return uri

/-- An exclamation mark, or a name between two of them. -/
def scanHandle : Scan Chars := do
  if !(← accept '!') then malformed
  if (← peek) = some ' ' then return ['!']
  let name ← takeWhile isNameChar
  if !(← accept '!') then malformed
  return '!' :: name ++ ['!']

/-- A number of a version, as it is written. -/
def scanVersionPart : Scan Nat := do
  let digits ← takeWhile Char.isDigit
  if digits.isEmpty then malformed
  if digits.length > Decimal.mostDigits then throw (.longInteger digits.length)
  return Decimal.natOfDigits 10 digits

def scanDirective : Scan Token := do
  skip 1
  let name ← scanName
  if !endsName (← peek) then malformed
  let token ←
    if name = "YAML".toList then do
      skipSpaces
      let major ← scanVersionPart
      if !(← accept '.') then malformed
      let minor ← scanVersionPart
      if !endsName (← peek) then malformed
      pure (.version major minor)
    else if name = "TAG".toList then do
      skipSpaces
      let handle ← scanHandle
      if (← peek) ≠ some ' ' then malformed
      skipSpaces
      let start ← scanUri
      if !endsName (← peek) then malformed
      pure (.tagHandle handle start)
    else do
      skipWhile (!isBreak ·)
      pure .otherDirective
  emptyLine
  return token

/-- The name of an anchor or an alias, with its sign. -/
def scanAnchor : Scan Chars := do
  skip 1
  let name ← scanName
  let following ← peek
  let ends := endsWord following ||
    following.any fun c ↦ "?:,]%@".toList.contains c || c = '\x7d' || c = '\x60'
  if !ends then malformed
  return name

/-- Whether a tag begins with a handle of its own: an exclamation mark comes before its end. -/
def hasHandle : Scan Bool := do
  let run := ((← get).rest.drop 1).takeWhile fun c ↦ c ≠ '!' && !endsName (some c)
  return (← peekAt (run.length + 1)) = some '!'

/-- A tag as such: a whole name in angle brackets, an exclamation mark alone, or a handle and what
comes after it. -/
def scanTagName : Scan Token := do
  let following ← peekAt 1
  if following = some '<' then
    skip 2
    let suffix ← scanUri
    if !(← accept '>') then malformed
    return .tag none suffix
  if endsWord following then
    skip 1
    return .tag none ['!']
  if ← hasHandle then
    let handle ← scanHandle
    return .tag (some handle) (← scanUri)
  skip 1
  return .tag (some ['!']) (← scanUri)

def scanTag : Scan Token := do
  let token ← scanTagName
  if !endsName (← peek) then malformed
  return token

end Token

end CellWeave.Yaml
