import CellWeave.Notebook
import CellWeave.Value
import CellWeave.SyncError
import CellWeave.Text.Upper
/-!
# Settings

A setting is taken from the environment if it is set there, even to nothing; else from the data of a
settings file, unless that holds null for it; else it has its default. How deep values may be inside
each other to be written out depends on where the settings are made: there is room for some levels.
-/

namespace CellWeave

inductive SettingError where
  | delimiter (error : SyncError)
  | unwritable (fault : WriteFault)
  deriving DecidableEq

namespace SettingError

def message : SettingError → String
  | delimiter error => error.message
  | unwritable .hugeInteger =>
    s!"Exceeds the limit ({Decimal.mostDigits} digits) for integer string conversion; " ++
      "use sys.set_int_max_str_digits() to increase the limit"
  | unwritable .tooDeep =>
    "maximum recursion depth exceeded while getting the repr of an object"

end SettingError

/-- Variables and their texts. A byte of a variable that is no text is half of a surrogate pair. -/
abbrev Environment := List (String × Text)

inductive Setting where
  | delimiter
  | language
  | logLevel
  | logFile
  deriving DecidableEq

namespace Setting

def all : List Setting :=
  [delimiter, language, logLevel, logFile]

def key : Setting → String
  | delimiter => "cell_delimiter"
  | language => "language"
  | logLevel => "log_level"
  | logFile => "log_file"

def variableName : Setting → String
  | delimiter => "NOTEBOOK_SYNC_CELL_DELIMITER"
  | language => "NOTEBOOK_SYNC_LANGUAGE"
  | logLevel => "NOTEBOOK_SYNC_LOG_LEVEL"
  | logFile => "NOTEBOOK_SYNC_LOG_FILE"

/-- The text of a setting where one is given. -/
def given? (setting : Setting) (room : Nat) (environment : Environment) (data : Value) :
    Except SettingError (Option Text) :=
  match environment.lookup setting.variableName, data.get? setting.key with
  | some text, _ => .ok (some text)
  | none, none => .ok none
  | none, some .null => .ok none
  | none, some value =>
    match value.writeFault? room with
    | none => .ok (some value.shown)
    | some fault => .error (.unwritable fault)

end Setting

/-- An empty path is no log file either, but it is kept. -/
structure Settings where
  delimiter : Delimiter
  language : Text
  logLevel : Text
  logFile : Option Text
  deriving DecidableEq

namespace Settings

def defaultLogLevel : Text :=
  .ofString "INFO"

/-- A feed may be written as a backslash and an `n`, where a feed itself is hard to write. -/
def unescapeFeeds : Text → Text
  | [] => []
  | .char '\\' :: .char 'n' :: rest => feed :: unescapeFeeds rest
  | point :: rest => point :: unescapeFeeds rest

/-- Fails for a delimiter that is not a single line, and for a value that cannot be written. -/
def ofSources (room : Nat) (environment : Environment) (data : Value) :
    Except SettingError Settings := do
  let given (setting : Setting) := setting.given? room environment data
  let delimiter ← match ← given .delimiter with
    | none => pure Delimiter.default
    | some text => (Delimiter.parse (unescapeFeeds text)).mapError .delimiter
  let language ← given .language
  let logLevel ← given .logLevel
  let logFile ← given .logFile
  return {
    delimiter
    language := language.getD Notebook.standardLanguage
    logLevel := Text.toUpper (logLevel.getD defaultLogLevel)
    logFile }

end Settings

end CellWeave
