import CellWeave.Text.Utf8
/-!
# Text files

The bytes of a text file are decoded in blocks, whose size is estimated from the block before, and
every kind of line end becomes a feed. Whoever reads the file gets its characters in pieces of the
size that is asked for. What is wrong with the bytes is a fault only where it is met.
-/

namespace CellWeave

/-- A file that is being read: its bytes from the next block on, the bytes of a character that the
last block cut off, whether that block ended in a carriage return, how many bytes it took for a
character, and the characters that are in no piece yet. -/
structure TextFile where
  bytes : List UInt8
  left : List UInt8
  afterReturn : Bool
  width : Float
  ready : Chars

namespace TextFile

def start (bytes : List UInt8) : TextFile :=
  ⟨bytes, [], false, 0, []⟩

/-- Every kind of line end as a feed. -/
def unifyFeeds : Chars → Chars
  | [] => []
  | '\r' :: '\n' :: rest => '\n' :: unifyFeeds rest
  | c :: rest => (if c = '\r' then '\n' else c) :: unifyFeeds rest

/-- The size of the next block if `wanted` characters are missing. -/
def blockSize (file : TextFile) (wanted : Nat) : Nat :=
  max 8192 ((max file.width 1) * Float.ofNat wanted).floor.toUInt64.toNat

/-- Decodes one block; `isLast` says that there is none left. A carriage return at the end of a
block waits for the next one. -/
def decode (file : TextFile) (block : List UInt8) (isLast : Bool) :
    Except Utf8.DecodeFault TextFile := do
  let (decoded, left) ← Utf8.decodeBlock isLast 0 (file.left ++ block)
  let isHeld := file.afterReturn && decoded.isEmpty && !isLast
  let text := if file.afterReturn && !isHeld then '\r' :: decoded else decoded
  let endsInReturn := !isLast && text.getLast? = some '\r'
  let text := unifyFeeds (if endsInReturn then text.dropLast else text)
  let width :=
    if text.isEmpty then 0 else Float.ofNat block.length / Float.ofNat text.length
  return ⟨file.bytes.drop block.length, left, isHeld || endsInReturn, width, file.ready ++ text⟩

/-- Takes `count` characters, or what there is. After the last block an empty one is decoded as long
as that still gives a character, which is a carriage return that was waiting. -/
def take (file : TextFile) (count : Nat) : Nat → Except Utf8.DecodeFault (Chars × TextFile)
  | 0 => .ok (file.ready.take count, { file with ready := file.ready.drop count })
  | fuel + 1 => do
    let wanted := count - file.ready.length
    if wanted = 0 then
      return (file.ready.take count, { file with ready := file.ready.drop count })
    let block := file.bytes.take (file.blockSize wanted)
    let next ← file.decode block block.isEmpty
    if block.isEmpty ∧ next.ready.length = file.ready.length then
      return (file.ready, { next with ready := [] })
    next.take count fuel

/-- The pieces that a file is read in, and the fault that is met after them. An empty piece is the
end. -/
def piecesFrom (file : TextFile) (size : Nat) : Nat → List Chars × Option Utf8.DecodeFault
  | 0 => ([], none)
  | fuel + 1 =>
    match file.take size (file.bytes.length + 1) with
    | .error fault => ([], some fault)
    | .ok ([], _) => ([], none)
    | .ok (piece, next) =>
      let (pieces, fault) := piecesFrom next size fuel
      (piece :: pieces, fault)

/-- What comes of reading some bytes in pieces. As every piece takes a byte at least, their number
bounds that of the pieces. -/
def pieces (size : Nat) (bytes : List UInt8) : List Chars × Option Utf8.DecodeFault :=
  piecesFrom (start bytes) size (bytes.length + 1)

end TextFile

end CellWeave
