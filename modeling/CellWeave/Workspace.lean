import CellWeave.Notebook
/-!
# The workspace of open notebooks

At most one notebook is open under a uri. The versions under a uri never go back: a notebook goes on
from the last version of the one it replaces, or of the one that was last closed under its uri.
-/

namespace CellWeave

/-- `opened` counts the notebooks that were opened so far, so that each has its own incarnation. -/
structure Workspace where
  delimiter : Delimiter
  notebooks : Table Notebook
  versionsAtClose : Table Int
  opened : Nat
  deriving DecidableEq

namespace Workspace

def empty (delimiter : Delimiter) : Workspace :=
  ⟨delimiter, [], [], 0⟩

def get? (workspace : Workspace) (uri : String) : Option Notebook :=
  workspace.notebooks.get? uri

def fetch (workspace : Workspace) (uri : String) : Except SyncError Notebook :=
  match workspace.get? uri with
  | some notebook => .ok notebook
  | none => .error (.notebookNotOpen uri)

def isOpen (workspace : Workspace) (uri : String) : Bool :=
  workspace.notebooks.has uri

/-- The notebooks in the order in which their uris came in. -/
def all (workspace : Workspace) : List Notebook :=
  workspace.notebooks.values

def owner? (workspace : Workspace) (cell : String) : Option Notebook :=
  workspace.all.find? (·.has cell)

/-- The last version that was reached under a uri. -/
def lastVersion (workspace : Workspace) (uri : String) : Int :=
  match workspace.get? uri with
  | some notebook => notebook.version
  | none => (workspace.versionsAtClose.get? uri).getD 0

/-- Keeps a changed notebook under its uri. -/
def put (workspace : Workspace) (notebook : Notebook) : Workspace :=
  { workspace with notebooks := workspace.notebooks.set notebook.uri notebook }

def openLog (workspace : Workspace) (uri : String) (count : Nat) : List LogRecord :=
  let replaced : List LogRecord := if workspace.isOpen uri then
      [.warning s!"[Registry] Notebook {uri} was opened twice, replacing the previous state"]
    else []
  replaced ++ [.debug s!"[Registry] Opened {uri} with {count} cell(s)"]

def openNotebook (workspace : Workspace) (uri : String) (cells : List Cell) :
    Except SyncError (Traced (Notebook × Workspace)) := do
  let blank := Notebook.start uri workspace.delimiter workspace.opened (workspace.lastVersion uri)
  let notebook ← blank.replaceCells cells
  let changed : Workspace :=
    { workspace.put notebook with
      versionsAtClose := workspace.versionsAtClose.erase uri
      opened := workspace.opened + 1 }
  return ⟨(notebook, changed), workspace.openLog uri notebook.cells.length⟩

/-- Gives the notebook that was open, if there was one. -/
def closeNotebook (workspace : Workspace) (uri : String) : Traced (Option Notebook × Workspace) :=
  match workspace.get? uri with
  | none => ⟨(none, workspace), []⟩
  | some notebook =>
    let changed : Workspace :=
      { workspace with
        notebooks := workspace.notebooks.erase uri
        versionsAtClose := workspace.versionsAtClose.set uri notebook.version }
    ⟨(some notebook, changed), [.debug s!"[Registry] Closed {uri}"]⟩

end Workspace

end CellWeave
