import CellWeave.Notebook.Request
import CellWeave.Workspace
/-!
# Requests to the workspace
-/

namespace CellWeave.Workspace

inductive Request where
  | openNotebook (uri : String) (cells : List Cell)
  | closeNotebook (uri : String)
  | get (uri : String)
  | fetch (uri : String)
  | isOpen (uri : String)
  | owner (cell : String)
  | within (uri : String) (request : Notebook.Request)

inductive Reply where
  | notebook (notebook : Option Notebook)
  | isOpen (answer : Bool)
  | owner (notebook : Option Notebook)
  | within (reply : Notebook.Reply)

/-- A workspace and, under each uri, the index that was put aside last for the notebook there. It
stays when the notebook is closed. -/
structure Desk where
  workspace : Workspace
  held : Table DocumentIndex

namespace Desk

def tell (desk : Desk) (reply : Except SyncError Reply) : Outcome Desk Reply :=
  ⟨reply, desk, []⟩

def handle (desk : Desk) : Request → Outcome Desk Reply
  | .openNotebook uri cells =>
    match desk.workspace.openNotebook uri cells with
    | .ok ⟨(notebook, workspace), log⟩ =>
      ⟨.ok (.notebook (some notebook)), { desk with workspace }, log⟩
    | .error error => desk.tell (.error error)
  | .closeNotebook uri =>
    let ⟨(notebook, workspace), log⟩ := desk.workspace.closeNotebook uri
    ⟨.ok (.notebook notebook), { desk with workspace }, log⟩
  | .get uri => desk.tell (.ok (.notebook (desk.workspace.get? uri)))
  | .fetch uri => desk.tell ((desk.workspace.fetch uri).map fun n ↦ .notebook (some n))
  | .isOpen uri => desk.tell (.ok (.isOpen (desk.workspace.isOpen uri)))
  | .owner cell => desk.tell (.ok (.owner (desk.workspace.owner? cell)))
  | .within uri request =>
    match desk.workspace.fetch uri with
    | .error error => desk.tell (.error error)
    | .ok notebook =>
      let inner := Notebook.Desk.handle ⟨notebook, desk.held.get? uri⟩ request
      ⟨inner.reply.map .within,
        ⟨desk.workspace.put inner.state.notebook, desk.held.keep uri inner.state.held⟩, inner.log⟩

end Desk

end CellWeave.Workspace
