import CellWeave.Board
import CellWeave.Workspace
/-!
# Sessions

A session keeps the open notebooks, their virtual documents and the diagnostics an editor shows in
step. Where the editor listens, every set of diagnostics that an operation gives is published to it.
-/

namespace CellWeave

structure Session where
  language : Text
  workspace : Workspace
  board : Board
  publishes : Bool
  deriving DecidableEq

/-- What happens while an operation runs: a record is made, a cell's diagnostics are sent to the
editor, or an operation turns to a notebook uri. -/
inductive Event where
  | logged (record : LogRecord)
  | published (cell : String) (diagnostics : List Diagnostic)
  | addressed (uri : String)
  deriving DecidableEq

namespace Event

def record? : Event → Option LogRecord
  | logged record => some record
  | _ => none

def publication? : Event → Option (String × List Diagnostic)
  | published cell diagnostics => some (cell, diagnostics)
  | _ => none

def uri? : Event → Option String
  | addressed uri => some uri
  | _ => none

end Event

/-- A value with the events on the way to it. -/
structure Witnessed (α : Type) where
  value : α
  events : List Event

namespace Session

def start (language : Text) (delimiter : Delimiter) (publishes : Bool) : Session :=
  ⟨language, .empty delimiter, .empty, publishes⟩

def note (message : String) : Event :=
  .logged (.debug s!"[NotebookSync] {message}")

/-- The publications of a set of diagnostics, cell by cell. -/
def publications (session : Session) (byCell : CellDiagnostics) : List Event :=
  if session.publishes then byCell.map fun (cell, diagnostics) ↦ .published cell diagnostics
  else []

def put (session : Session) (notebook : Notebook) : Session :=
  { session with workspace := session.workspace.put notebook }

def openNotebook (session : Session) (uri : String) (cells : List Cell) :
    Except SyncError (Witnessed (Notebook × Session)) := do
  let ⟨(notebook, workspace), log⟩ ← session.workspace.openNotebook uri cells
  return ⟨(notebook, { session with workspace }), log.map .logged⟩

/-- Closes a notebook and takes the diagnostics of its cells away. -/
def closeNotebook (session : Session) (uri : String) : Witnessed (CellDiagnostics × Session) :=
  match session.workspace.closeNotebook uri with
  | ⟨(none, _), _⟩ => ⟨([], session), [note s!"{uri} already closed"]⟩
  | ⟨(some notebook, workspace), closeLog⟩ =>
    let ⟨(emptied, board), clearLog⟩ := session.board.clear notebook
    ⟨(emptied, { session with workspace, board }),
      (closeLog ++ clearLog).map .logged ++ session.publications emptied⟩

/-- Forgets cells that left a notebook and publishes that they have no diagnostics. -/
def forgetCells (session : Session) (uri : String) : List String → Witnessed Session
  | [] => ⟨session, []⟩
  | cell :: rest =>
    let (emptied, board) := session.board.clearCell uri cell
    let ⟨final, events⟩ := forgetCells { session with board } uri rest
    ⟨final, session.publications emptied ++ events⟩

def changeStructure (session : Session) (uri : String) (opened : List (Int × Cell))
    (closed : List String) : Except SyncError (Witnessed (Notebook × Session)) := do
  let notebook ← session.workspace.fetch uri
  let ⟨(removed, changed), log⟩ ← notebook.changeStructure opened closed
  let ⟨final, events⟩ := (session.put changed).forgetCells uri (removed.map (·.uri))
  return ⟨(changed, final), log.map .logged ++ events⟩

def changeContent (session : Session) (uri cell : String) (edits : List Edit)
    (version : Option Int) : Except SyncError (Witnessed (Cell × Session)) := do
  let notebook ← session.workspace.fetch uri
  let ⟨(changedCell, changed), log⟩ ← notebook.changeContent cell edits version
  return ⟨(changedCell, session.put changed), log.map .logged⟩

/-- What an analyzer is given for the current version of a notebook. -/
def document (session : Session) (uri : String) :
    Except SyncError (Witnessed (Document × Session)) := do
  let notebook ← session.workspace.fetch uri
  let ⟨(index, notebook), log⟩ := notebook.readIndex
  return ⟨(notebook.documentOf session.language index, session.put notebook), log.map .logged⟩

def projectFix (session : Session) (uri : String) (fix : Fix) :
    Except SyncError (Witnessed (Option CellFix × Session)) := do
  let notebook ← session.workspace.fetch uri
  let ⟨(projected, notebook), log⟩ := Board.projectFix notebook fix
  return ⟨(projected, session.put notebook), log.map .logged⟩

/-- The cell that a virtual line shows, if the notebook is open. -/
def owner (session : Session) (uri : String) (line : Int) : Witnessed (Option String × Session) :=
  match session.workspace.get? uri with
  | none => ⟨(none, session), []⟩
  | some notebook =>
    let ⟨(index, notebook), log⟩ := notebook.readIndex
    ⟨(index.owner line, session.put notebook), log.map .logged⟩

def knowsCell (session : Session) (cell : String) : Bool :=
  (session.workspace.owner? cell).isSome

def notebookOfCell (session : Session) (cell : String) : Option String :=
  (session.workspace.owner? cell).map (·.uri)

/-- Begins a projection of findings for the notebook that is open under a uri. -/
def startPass (session : Session) (uri : String) (analyzed : Option Int) :
    Witnessed (Option (Pass × Session)) :=
  match session.workspace.get? uri with
  | none => ⟨none, [note s!"Dropping findings for closed notebook {uri}"]⟩
  | some notebook =>
    match session.board.start notebook analyzed with
    | ⟨none, log⟩ => ⟨none, log.map .logged⟩
    | ⟨some (pass, notebook), log⟩ => ⟨some (pass, session.put notebook), log.map .logged⟩

/-- Ends a projection and publishes what it gives. -/
def finishPass (session : Session) (pass : Pass) : Witnessed (CellDiagnostics × Session) :=
  let ⟨(byCell, board), log⟩ := session.board.finish pass
  ⟨(byCell, { session with board }), log.map .logged ++ session.publications byCell⟩

/-- Clears an open notebook without telling the editor. -/
def clear (session : Session) (uri : String) :
    Except SyncError (Witnessed (CellDiagnostics × Session)) := do
  let notebook ← session.workspace.fetch uri
  let ⟨(emptied, board), log⟩ := session.board.clear notebook
  return ⟨(emptied, { session with board }), log.map .logged⟩

end Session

end CellWeave
