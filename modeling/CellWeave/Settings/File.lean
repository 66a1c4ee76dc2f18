import CellWeave.FileTree
import CellWeave.Settings
import CellWeave.Settings.Reader
/-!
# Settings files

Settings are read from the file that is asked for, or else from the first one with a known name in
the working folder or the home folder. A file that is missing, is refused as no document or holds no
map gives no settings, so that the environment and the defaults are left.
-/

namespace CellWeave

/-- Where a session is started. There is room for some levels of values inside each other. -/
structure Surroundings where
  tree : FileTree
  folder : AbsolutePath
  home : AbsolutePath
  environment : Environment
  room : Nat

inductive SettingsError (φ : Type) where
  | undecodable (fault : Utf8.DecodeFault)
  | raised (fault : φ)
  | setting (error : SettingError)
  deriving DecidableEq

namespace Settings

variable {φ : Type}

def fileNames : List String :=
  [".notebook_sync.yaml", ".notebook_sync.yml"]

/-- The bytes of the settings file, if there is one. No other file stands in for the one that is
asked for; an empty path asks for none. -/
def fileContent? (around : Surroundings) (path : Option Text) : Option (List UInt8) :=
  match path.filter (· ≠ []) with
  | some path => around.tree.read? around.folder path
  | none =>
    [around.folder, around.home].findSome? fun folder ↦
      fileNames.findSome? fun name ↦
        around.tree.content? (folder.child (.ofString name)).place

/-- The data in a file. A text that is no document, and a document that is no map, count as a map
without entries. -/
def dataOfBytes (reader : DocumentReader φ) (bytes : List UInt8) : Except (SettingsError φ) Value :=
  match reader.readBytes bytes with
  | .ok (.map entries) => .ok (.map entries)
  | .ok _ | .error (.reader .refused) => .ok (.map [])
  | .error (.reader (.raised fault)) => .error (.raised fault)
  | .error (.undecodable fault) => .error (.undecodable fault)

def load (reader : DocumentReader φ) (around : Surroundings) (path : Option Text) :
    Except (SettingsError φ) Settings := do
  let data ← match fileContent? around path with
    | some bytes => dataOfBytes reader bytes
    | none => .ok (.map [])
  (ofSources around.room around.environment data).mapError .setting

end Settings

end CellWeave
