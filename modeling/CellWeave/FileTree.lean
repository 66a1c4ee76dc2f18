import CellWeave.FilePath
/-!
# Files

A tree of files and folders, kept as a list of places. A path is walked from a folder, or from the
root if it begins with a slash, one name after the other, and every step but the last has to be
through a folder. A path with a code point that has no bytes or with a zero, and one that is too
long or has a name that is too long, leads nowhere.
-/

namespace CellWeave

inductive FileEntry where
  | file (content : List UInt8)
  | folder
  deriving DecidableEq

structure FileTree where
  entries : List (Place × FileEntry)
  deriving DecidableEq

inductive FolderError where
  | present (path : Text)
  | unreachable (fault : WalkFault) (path : Text)
  deriving DecidableEq

namespace FolderError

def message : FolderError → String
  | present path => "[Errno 17] File exists: " ++ String.ofList path.quoted
  | unreachable fault path => fault.message path

end FolderError

namespace FileTree

def entry? (tree : FileTree) (place : Place) : Option FileEntry :=
  if place = [] then some .folder else tree.entries.lookup place

def put (tree : FileTree) (place : Place) (entry : FileEntry) : FileTree :=
  ⟨(place, entry) :: tree.entries.filter (·.1 != place)⟩

def walkNames (tree : FileTree) (place : Place) : List (List UInt8) → Except WalkFault Place
  | [] => .ok place
  | name :: rest =>
    match tree.entry? place with
    | none => .error .missing
    | some (.file _) => .error .notFolder
    | some .folder =>
      if FilePath.longestName < name.length then .error .tooLong
      else walkNames tree (FilePath.step 0x2E place name) rest

def walk (tree : FileTree) (folder : AbsolutePath) (path : Text) : Except WalkFault Place :=
  match FilePath.fault? path with
  | some fault => .error fault
  | none =>
    tree.walkNames (if FilePath.isAbsolute path then [] else folder.place)
      ((FilePath.names path).map Utf8.pathBytes)

/-- What a path leads to, if anything. -/
def find? (tree : FileTree) (folder : AbsolutePath) (path : Text) : Option FileEntry :=
  match tree.walk folder path with
  | .ok place => tree.entry? place
  | .error _ => none

def isFolder (tree : FileTree) (folder : AbsolutePath) (path : Text) : Bool :=
  tree.find? folder path == some .folder

def content? (tree : FileTree) (place : Place) : Option (List UInt8) :=
  match tree.entry? place with
  | some (.file content) => some content
  | _ => none

/-- The bytes of the file that a path leads to. -/
def read? (tree : FileTree) (folder : AbsolutePath) (path : Text) : Option (List UInt8) :=
  match tree.find? folder path with
  | some (.file content) => some content
  | _ => none

def makeFolder (tree : FileTree) (folder : AbsolutePath) (path : Text) :
    Except FolderError FileTree :=
  match tree.walk folder path with
  | .error fault => .error (.unreachable fault path)
  | .ok place =>
    match tree.entry? place with
    | some _ => .error (.present path)
    | none => .ok (tree.put place .folder)

/-- Makes a folder unless it is there. -/
def settleFolder (tree : FileTree) (folder : AbsolutePath) (path : Text) :
    Except FolderError Unit × FileTree :=
  match tree.makeFolder folder path with
  | .ok made => (.ok (), made)
  | .error error => (if tree.isFolder folder path then .ok () else .error error, tree)

/-- Makes a folder and the folders on the way to it, unless they are there. Each step cuts the last
name off the path. Folders that were made stay if a later one fails. -/
def makeFoldersFrom (tree : FileTree) (folder : AbsolutePath) (path : Text) :
    Nat → Except FolderError Unit × FileTree
  | 0 => (.ok (), tree)
  | fuel + 1 =>
    let (head, tail) := FilePath.split path
    if head.isEmpty || (tree.find? folder head).isSome then tree.settleFolder folder path
    else
      match makeFoldersFrom tree folder head fuel with
      | (.ok (), tree) | (.error (.present _), tree) =>
        if tail = [.char '.'] then (.ok (), tree) else tree.settleFolder folder path
      | outcome => outcome

def makeFolders (tree : FileTree) (folder : AbsolutePath) (path : Text) :
    Except FolderError Unit × FileTree :=
  makeFoldersFrom tree folder path (path.length + 1)

/-- Adds bytes at the end of a file, which is made if it is not there. -/
def append (tree : FileTree) (place : Place) (bytes : List UInt8) : FileTree :=
  tree.put place (.file ((tree.content? place).getD [] ++ bytes))

end FileTree

end CellWeave
