import CellWeave.Text.Quoted
/-!
# Text from bytes

Bytes are read as UTF-8, block by block: bytes that end a block in the middle of a character are put
in front of the next block, and positions in a fault count from the first byte that was decoded
together with the faulty one. A text has bytes only if it has no halves of surrogate pairs; but in a
path half of them stand for single bytes.
-/

namespace CellWeave.Utf8

inductive Reason where
  | startByte
  | continuationByte
  | endOfData
  deriving DecidableEq

/-- The bytes from `start` up to `stop` are no character; `first` is the first of them. -/
structure DecodeFault where
  first : UInt8
  start : Nat
  stop : Nat
  reason : Reason
  deriving DecidableEq

/-- What stands at the head of some bytes. -/
inductive Head where
  | char (c : Char) (width : Nat)
  | incomplete
  | bad (reason : Reason) (width : Nat)

def isTail (byte : UInt8) : Bool :=
  0x80 ≤ byte && byte < 0xC0

/-- Whether a second byte may come after a first byte: no longer form than needed, no surrogate and
nothing above the last code point. -/
def fitsSecond (first second : UInt8) : Bool :=
  isTail second &&
    (if first = 0xE0 then 0xA0 ≤ second
      else if first = 0xED then second < 0xA0
      else if first = 0xF0 then 0x90 ≤ second
      else if first = 0xF4 then second < 0x90
      else true)

def join (lead : Nat) (tails : List UInt8) : Char :=
  Char.ofNat (tails.foldl (fun code byte ↦ code * 64 + (byte.toNat - 0x80)) lead)

def headTwo (first : UInt8) : List UInt8 → Head
  | [] => .incomplete
  | second :: _ =>
    if isTail second then .char (join (first.toNat - 0xC0) [second]) 2
    else .bad .continuationByte 1

def headThree (first : UInt8) : List UInt8 → Head
  | [] => .incomplete
  | second :: rest =>
    if !fitsSecond first second then .bad .continuationByte 1
    else match rest with
      | [] => .incomplete
      | third :: _ =>
        if isTail third then .char (join (first.toNat - 0xE0) [second, third]) 3
        else .bad .continuationByte 2

def headFour (first : UInt8) : List UInt8 → Head
  | [] => .incomplete
  | second :: rest =>
    if !fitsSecond first second then .bad .continuationByte 1
    else match rest with
      | [] => .incomplete
      | third :: rest =>
        if !isTail third then .bad .continuationByte 2
        else match rest with
          | [] => .incomplete
          | fourth :: _ =>
            if isTail fourth then .char (join (first.toNat - 0xF0) [second, third, fourth]) 4
            else .bad .continuationByte 3

def headOf (first : UInt8) (rest : List UInt8) : Head :=
  if first < 0x80 then .char (Char.ofNat first.toNat) 1
  else if first < 0xC2 then .bad .startByte 1
  else if first < 0xE0 then headTwo first rest
  else if first < 0xF0 then headThree first rest
  else if first < 0xF5 then headFour first rest
  else .bad .startByte 1

/-- Two bytes that begin a surrogate count as incomplete while more bytes may come. -/
def surrogateStart (bytes : List UInt8) : Bool :=
  match bytes with
  | [first, second] => first = 0xED && isTail second
  | _ => false

/-- Decodes a block from `position` on and gives the bytes that are left at its end. If the block is
the last one, bytes left over are a fault. -/
def decodeBlock (isLast : Bool) (position : Nat) (bytes : List UInt8) :
    Except DecodeFault (Chars × List UInt8) :=
  match bytes with
  | [] => .ok ([], [])
  | first :: rest =>
    match headOf first rest with
    | .char c width => do
      let (text, left) ← decodeBlock isLast (position + width) (rest.drop (width - 1))
      return (c :: text, left)
    | .incomplete =>
      if isLast then .error ⟨first, position, position + rest.length + 1, .endOfData⟩
      else .ok ([], bytes)
    | .bad reason width =>
      if !isLast && surrogateStart bytes then .ok ([], bytes)
      else .error ⟨first, position, position + width, reason⟩
termination_by bytes.length
decreasing_by
  simp only [List.length_cons, List.length_drop]
  omega

def encode (text : Chars) : List UInt8 :=
  text.flatMap String.utf8EncodeChar

/-- The bytes of a text without halves of surrogate pairs. -/
def encode? (text : Text) : Option (List UInt8) :=
  text.toChars?.map encode

/-- The code points from `start` up to `stop` have no bytes; `first` is the first of them. -/
structure EncodeFault where
  first : CodePoint
  start : Nat
  stop : Nat
  deriving DecidableEq

/-- Whether this is the half of a surrogate pair that a byte from 80 to FF is written as. -/
def standsForByte : CodePoint → Bool
  | .surrogate half => 0x480 ≤ half.val && half.val < 0x500
  | .char _ => false

/-- The bytes of a text that is a path. Halves of surrogate pairs that stand for no byte have
none. -/
def pathBytes (text : Text) : List UInt8 :=
  text.flatMap fun
    | .char c => String.utf8EncodeChar c
    | .surrogate half =>
      if standsForByte (.surrogate half) then [.ofNat (half.val - 0x400)] else []

/-- The first run of halves of surrogate pairs, from the first that stands for no byte on. -/
def encodeFaultFrom (position : Nat) : Text → Option EncodeFault
  | [] => none
  | point :: rest =>
    if point.toChar?.isSome || standsForByte point then encodeFaultFrom (position + 1) rest
    else
      let run := rest.takeWhile (·.toChar?.isNone)
      some ⟨point, position, position + run.length + 1⟩

def encodeFault? (text : Text) : Option EncodeFault :=
  encodeFaultFrom 0 text

namespace Reason

def message : Reason → String
  | startByte => "invalid start byte"
  | continuationByte => "invalid continuation byte"
  | endOfData => "unexpected end of data"

end Reason

namespace DecodeFault

def message (fault : DecodeFault) : String :=
  let place :=
    if fault.stop = fault.start + 1 then
      let digits := Nat.toDigits 16 fault.first.toNat
      s!"byte 0x{String.ofList digits} in position {fault.start}"
    else s!"bytes in position {fault.start}-{fault.stop - 1}"
  s!"'utf-8' codec can't decode {place}: {fault.reason.message}"

end DecodeFault

namespace EncodeFault

def message (fault : EncodeFault) : String :=
  let place :=
    if fault.stop = fault.start + 1 then
      let digits := String.ofList (Text.codeEscape fault.first.toNat)
      s!"character '{digits}' in position {fault.start}"
    else s!"characters in position {fault.start}-{fault.stop - 1}"
  s!"'utf-8' codec can't encode {place}: surrogates not allowed"

end EncodeFault

end CellWeave.Utf8
