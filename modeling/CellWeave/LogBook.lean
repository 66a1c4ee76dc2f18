import CellWeave.FileTree
import CellWeave.Log
import CellWeave.Logger
import CellWeave.Text.Upper
import CellWeave.Text.Utf8
/-!
# Log files

Records of a level that is high enough are written to every file that was set up, each on a line of
its own. A file is set up once, however its path in the working folder is spelled, and stays until
the end. The book hears its own logger and those within it; others have a level of their own and
write nothing.
-/

namespace CellWeave

inductive LogBookError where
  | layoutAsLevel
  | layoutsAsLevel
  | folder (error : FolderError)
  | file (fault : WalkFault) (path : AbsolutePath)
  | folderAsFile (path : AbsolutePath)
  deriving DecidableEq

namespace LogBookError

/-- The standard layouts of lines, by the sign that marks the fields in them. -/
def layouts : List (String × String × String) :=
  [("%", "PercentStyle", "%(levelname)s:%(name)s:%(message)s"),
    ("\x7b", "StrFormatStyle", "\x7blevelname\x7d:\x7bname\x7d:\x7bmessage\x7d"),
    ("$", "StringTemplateStyle", "$\x7blevelname\x7d:$\x7bname\x7d:$\x7bmessage\x7d")]

def shownLayouts : String :=
  let shown := layouts.map fun (sign, name, layout) ↦
    "'" ++ sign ++ "': (<class 'logging." ++ name ++ "'>, '" ++ layout ++ "')"
  "\x7b" ++ String.intercalate ", " shown ++ "\x7d"

def message : LogBookError → String
  | layoutAsLevel => "Unknown level: '%(levelname)s:%(name)s:%(message)s'"
  | layoutsAsLevel => "Level not an integer or a valid string: " ++ shownLayouts
  | folder error => error.message
  | file fault path => fault.message path.shown
  | folderAsFile path => "[Errno 21] Is a directory: " ++ String.ofList path.shown.quoted

end LogBookError

/-- A level of 0 is no level. Whether a logger takes records of a level is `settled` with the first
such record after the level was set. -/
structure LogBook where
  level : Nat
  tree : FileTree
  folder : AbsolutePath
  files : List AbsolutePath
  loggers : List Text
  settled : List ((Text × Level) × Bool)
  deriving DecidableEq

namespace LogBook

def rootName : Text :=
  .ofString "notebook_sync"

/-- Nothing below a critical record, and no file. -/
def start (tree : FileTree) (folder : AbsolutePath) : LogBook :=
  ⟨Level.critical.value, tree, folder, [], [rootName], []⟩

def levels : List (String × Nat) :=
  [("CRITICAL", 50), ("FATAL", 50), ("ERROR", 40), ("WARN", 30), ("WARNING", 30), ("INFO", 20),
    ("DEBUG", 10), ("NOTSET", 0)]

/-- The number of a level by its name in any case, and that of `INFO` for other names. The standard
layouts of lines have such names too, but are no levels. -/
def levelNamed (name : Text) : Except LogBookError Nat :=
  let name := name.toUpper
  if name = .ofString "BASIC_FORMAT" then .error .layoutAsLevel
  else if name = .ofString "_STYLES" then .error .layoutsAsLevel
  else .ok (((levels.find? (.ofString ·.1 = name)).map (·.2)).getD Level.info.value)

/-- Without a level of its own the book takes warnings and what is above them. -/
def threshold (book : LogBook) : Nat :=
  if book.level = 0 then Level.warning.value else book.level

/-- Why the file that an absolute path leads to cannot be opened for writing. -/
def openError? (tree : FileTree) (target : AbsolutePath) : Option LogBookError :=
  match FilePath.fault? target.shown with
  | some fault => some (.file fault target)
  | none =>
    if target.place.any (FilePath.longestName < ·.length) then some (.file .tooLong target)
    else if tree.entry? target.place = some .folder then some (.folderAsFile target)
    else none

/-- Adds the file that a path names, unless it has been added under the same absolute path. The
folders on the path are made. -/
def addFile (book : LogBook) (path : Text) : Except LogBookError Unit × LogBook :=
  let target := book.folder.resolve path
  if book.files.contains target then (.ok (), book)
  else
    let folder := (FilePath.split path).1
    let (outcome, tree) :=
      if folder.isEmpty then (.ok (), book.tree) else book.tree.makeFolders book.folder folder
    let book := { book with tree }
    match outcome, openError? tree target with
    | .error error, _ => (.error (.folder error), book)
    | .ok (), some error => (.error error, book)
    | .ok (), none =>
      (.ok (), { book with
        tree := tree.append target.place []
        files := book.files ++ [target] })

/-- Sets the level and, if a path is given, adds a file. The level is set also if the file fails. -/
def setUp (book : LogBook) (level : Text) (path : Option Text) :
    Except LogBookError Unit × LogBook :=
  match levelNamed level with
  | .error error => (.error error, book)
  | .ok level =>
    let book := { book with level, settled := [] }
    match path.filter (· ≠ []) with
    | none => (.ok (), book)
    | some path => book.addFile path

/-- The line of a record. A record with a half of a surrogate pair has none. -/
def lineOf (record : LogRecord) : List UInt8 :=
  (Utf8.encode? (.ofString s!"[{record.level.name}] " ++ record.message ++ [feed])).getD []

/-- Adds a line to every file. -/
def addLine (book : LogBook) (record : LogRecord) : LogBook :=
  let tree := book.files.foldl (fun tree file ↦ tree.append file.place (lineOf record)) book.tree
  { book with tree }

def write (book : LogBook) (record : LogRecord) : LogBook :=
  if record.level.value < book.threshold then book else book.addLine record

/-- Whether records of a logger come to the book. -/
def hears (book : LogBook) (logger : Text) : Bool :=
  Logger.isWithin book.loggers rootName logger

/-- Whether a logger takes records of a level. One that is not heard takes warnings and what is
above them. -/
def takes (book : LogBook) (logger : Text) (level : Level) : Bool :=
  let threshold := if book.hears logger then book.threshold else Level.warning.value
  (book.settled.lookup (logger, level)).getD (threshold ≤ level.value)

/-- Receives a record under the name of a logger, which is one from then on. -/
def receive (book : LogBook) (logger : Text) (record : LogRecord) : LogBook :=
  let isTaken := book.takes logger record.level
  let book := { book with
    loggers := logger :: book.loggers
    settled := ((logger, record.level), isTaken) :: book.settled }
  if isTaken && book.hears logger then book.addLine record else book

end LogBook

end CellWeave
