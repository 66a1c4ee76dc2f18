import CellWeave.LogBook
import CellWeave.Session
import CellWeave.Settings.File
/-!
# Starting a session

Settings are loaded, then the log is set up as they say, then the session begins. The first of these
that fails is the only one that does.
-/

namespace CellWeave

inductive StartError (φ : Type) where
  | settings (error : SettingsError φ)
  | log (error : LogBookError)
  deriving DecidableEq

namespace LogBook

/-- Writes down the records among some events. -/
def follow (book : LogBook) (events : List Event) : LogBook :=
  (events.filterMap Event.record?).foldl write book

end LogBook

namespace Session

def ofSettings (settings : Settings) (publishes : Bool) : Session :=
  start settings.language settings.delimiter publishes

def ofSurroundings {φ : Type} (reader : DocumentReader φ) (around : Surroundings)
    (path : Option Text) (publishes : Bool) : Except (StartError φ) (Session × LogBook) := do
  let settings ← (Settings.load reader around path).mapError .settings
  let (outcome, book) :=
    (LogBook.start around.tree around.folder).setUp settings.logLevel settings.logFile
  outcome.mapError .log
  return (ofSettings settings publishes, book)

end Session

end CellWeave
