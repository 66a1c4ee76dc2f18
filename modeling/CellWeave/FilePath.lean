import CellWeave.Text.Utf8
/-!
# Paths

A path is a text, and a folder is left for the folder around it under the name of two dots. An
absolute path has no such detours. Files are found by the bytes of the names on the way to them, so
that different texts may lead to the same file: two slashes at the beginning are kept apart from
one, and the bytes of a character may be written as halves of surrogate pairs.
-/

namespace CellWeave

/-- The names on the way to a file from the root on, in bytes. -/
abbrev Place := List (List UInt8)

/-- Why a path leads to no place: it is no path, a folder is missing, or a file stands where one is
needed. -/
inductive WalkFault where
  | unencodable (fault : Utf8.EncodeFault)
  | zeroByte
  | tooLong
  | missing
  | notFolder
  deriving DecidableEq

namespace WalkFault

/-- The text of a fault at a path. -/
def message (path : Text) : WalkFault → String
  | unencodable fault => fault.message
  | zeroByte => "embedded null byte"
  | tooLong => "[Errno 36] File name too long: " ++ String.ofList path.quoted
  | missing => "[Errno 2] No such file or directory: " ++ String.ofList path.quoted
  | notFolder => "[Errno 20] Not a directory: " ++ String.ofList path.quoted

end WalkFault

namespace FilePath

abbrev slash : CodePoint :=
  .char '/'

def isAbsolute (path : Text) : Bool :=
  path.head? == some slash

/-- The names between the slashes of a path. -/
def names : Text → List Text
  | [] => [[]]
  | point :: rest =>
    if point = slash then [] :: names rest else (names rest).modifyHead (point :: ·)

/-- One step from a place by a name, in which `dot` is the sign that detours are written with. -/
def step {α : Type} [DecidableEq α] (dot : α) (place : List (List α)) (name : List α) :
    List (List α) :=
  if name = [] ∨ name = [dot] then place
  else if name = [dot, dot] then place.dropLast
  else place ++ [name]

/-- The part of a path before its last slash and the part after it. -/
def split (path : Text) : Text × Text :=
  let tail := (path.reverse.takeWhile (· != slash)).reverse
  let head := path.take (path.length - tail.length)
  let trimmed := (head.reverse.dropWhile (· == slash)).reverse
  (if trimmed.isEmpty then head else trimmed, tail)

/-- The most bytes of a name. -/
def longestName : Nat :=
  255

/-- A path has fewer bytes. -/
def pathLimit : Nat :=
  4096

/-- What is wrong with the code points of a path. -/
def pointFault? (path : Text) : Option WalkFault :=
  match Utf8.encodeFault? path with
  | some fault => some (.unencodable fault)
  | none => if path.contains (.char '\x00') then some .zeroByte else none

/-- What is wrong with a path as such. -/
def fault? (path : Text) : Option WalkFault :=
  (pointFault? path).or
    (if pathLimit ≤ (Utf8.pathBytes path).length then some .tooLong else none)

end FilePath

/-- The names on the way from the root, without detours. A path that begins with exactly two slashes
is not the same as one that begins with one. -/
structure AbsolutePath where
  isDouble : Bool
  names : List Text
  deriving DecidableEq

namespace AbsolutePath

open FilePath (slash)

/-- A path from the root, by names that are no detours. -/
def ofNames (names : List Text) : AbsolutePath :=
  ⟨false, names⟩

/-- What a path in a folder names. -/
def resolve (folder : AbsolutePath) (path : Text) : AbsolutePath :=
  let step := FilePath.step (.char '.')
  let names := FilePath.names path
  if FilePath.isAbsolute path then
    ⟨[slash, slash].isPrefixOf path && !([slash, slash, slash].isPrefixOf path),
      names.foldl step []⟩
  else ⟨folder.isDouble, names.foldl step folder.names⟩

/-- The path of a name in a folder. -/
def child (folder : AbsolutePath) (name : Text) : AbsolutePath :=
  { folder with names := folder.names ++ [name] }

def shown (path : AbsolutePath) : Text :=
  (if path.isDouble then [slash, slash] else [slash]) ++ List.intercalate [slash] path.names

/-- Where the path leads to. -/
def place (path : AbsolutePath) : Place :=
  path.names.map Utf8.pathBytes

end AbsolutePath

end CellWeave
