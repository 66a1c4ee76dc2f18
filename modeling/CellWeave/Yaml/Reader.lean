import CellWeave.Settings
import CellWeave.Settings.Reader
import CellWeave.Yaml.Document
/-!
# A reader of YAML documents

Settings files are read as YAML. Of the value of a document only what may be asked for is written
out: the entries of the outermost map that are settings, or nothing if there is no such map.
-/

namespace CellWeave.Yaml

def readFault : Fault → ReadFault Fault
  | .malformed => .refused
  | fault => .raised fault

def settingsIn (document : Document) : Value :=
  .map <| Setting.all.filterMap fun setting ↦
    (document.get? setting.key).map fun value ↦ (.text (.ofString setting.key), value)

/-- The second piece is asked for before anything is read, and after that a piece when what is there
has been read. -/
def reader : DocumentReader Fault where
  pieceSize := Source.pieceSize
  pieceSize_pos := by decide
  faultWithin? text :=
    if text.length ≤ Source.pieceSize then none
    else
      match Document.read (.ofText (some .unread) text) with
      | .ok _ | .error .unread => none
      | .error fault => some (readFault fault)
  read text :=
    match Document.read (.ofText none text) with
    | .ok none => .ok .null
    | .ok (some document) => .ok (settingsIn document)
    | .error fault => .error (readFault fault)

end CellWeave.Yaml
