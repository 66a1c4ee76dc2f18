import CellWeave.Notebook.Request
import CellWeave.Session
/-!
# Requests to a session

Findings come as a stream: when a projection gets to a request in it, that request is handled before
the next finding is read. So any request can come in the middle of any projection. A stream comes to
an end: one that fails on the way, and the projection with it, is left out.
-/

namespace CellWeave.Session

/-- Requests other than projections. `applyFix` is no operation of a session, but what a client does
with a fix: it is projected, and then the content of one cell after the other is changed. -/
inductive Call where
  | openNotebook (uri : String) (cells : List Cell)
  | closeNotebook (uri : String)
  | changeStructure (uri : String) (opened : List (Int × Cell)) (closed : List String)
  | changeContent (uri cell : String) (edits : List Edit) (version : Option Int)
  | document (uri : String)
  | projectFix (uri : String) (fix : Fix)
  | applyFix (uri : String) (fix : Fix)
  | owner (uri : String) (line : Int)
  | knowsCell (cell : String)
  | notebookOfCell (cell : String)
  | clear (uri : String)
  | within (uri : String) (request : Notebook.Request)

mutual

inductive Request where
  | call (call : Call)
  | project (uri : String) (findings : Stream) (analyzed : Option Int)

inductive Stream where
  | done
  | finding (finding : Finding) (rest : Stream)
  | request (request : Request) (rest : Stream)

end

/-- The answers in `during` are those of the requests in the stream of findings. -/
inductive Reply where
  | notebook (notebook : Notebook)
  | diagnostics (byCell : CellDiagnostics) (during : List (Except SyncError Reply))
  | cell (cell : Cell)
  | document (document : Document)
  | fix (fix : Option CellFix)
  | changedCells (cells : Option (List Cell))
  | owner (uri : Option String)
  | known (answer : Bool)
  | within (reply : Notebook.Reply)

/-- A session and, under each uri, the index that was put aside last for the notebook there. It
stays when the notebook is closed. -/
structure Desk where
  session : Session
  held : Table DocumentIndex

/-- What handling a request gives: a reply or an error, the state after it, and the events. -/
structure Answer where
  reply : Except SyncError Reply
  desk : Desk
  events : List Event

/-- What reading a stream gives: the pass after it, the state, the answers and the events. -/
structure Reading where
  pass : Pass
  desk : Desk
  during : List (Except SyncError Reply)
  events : List Event

namespace Call

/-- The notebook uri that a request names. -/
def uri? : Call → Option String
  | openNotebook uri _ | closeNotebook uri | changeStructure uri _ _ | changeContent uri _ _ _
  | document uri | projectFix uri _ | applyFix uri _ | owner uri _ | clear uri
  | within uri _ => some uri
  | knowsCell _ | notebookOfCell _ => none

end Call

namespace Desk

def tell (desk : Desk) (reply : Except SyncError Reply) : Answer :=
  ⟨reply, desk, []⟩

def finish {α : Type} (desk : Desk) (reply : α → Reply) (done : Witnessed (α × Session)) : Answer :=
  ⟨.ok (reply done.value.1), { desk with session := done.value.2 }, done.events⟩

def attempt {α : Type} (desk : Desk) (reply : α → Reply)
    (result : Except SyncError (Witnessed (α × Session))) : Answer :=
  match result with
  | .ok done => desk.finish reply done
  | .error error => desk.tell (.error error)

/-- The content changes that a client asks for to make a fix, one for each group. A group that fails
leaves those before it as made. -/
def applyGroups (desk : Desk) (uri : String) (changed : List Cell) : List EditGroup → Answer
  | [] => desk.tell (.ok (.changedCells (some changed)))
  | group :: rest =>
    match desk.session.changeContent uri group.cell group.edits none with
    | .error error => desk.tell (.error error)
    | .ok ⟨(cell, session), events⟩ =>
      let final := applyGroups { desk with session } uri (changed ++ [cell]) rest
      { final with events := events ++ final.events }

/-- A client's way to make a fix: it is projected, and its groups are changed in turn. -/
def applyFix (desk : Desk) (uri : String) (fix : Fix) : Answer :=
  match desk.session.projectFix uri fix with
  | .error error => desk.tell (.error error)
  | .ok ⟨(none, session), events⟩ =>
    ⟨.ok (.changedCells none), { desk with session }, events⟩
  | .ok ⟨(some projected, session), events⟩ =>
    let final := applyGroups { desk with session } uri [] projected.groups
    { final with events := events ++ final.events }

def within (desk : Desk) (uri : String) (request : Notebook.Request) : Answer :=
  match desk.session.workspace.fetch uri with
  | .error error => desk.tell (.error error)
  | .ok notebook =>
    let inner := Notebook.Desk.handle ⟨notebook, desk.held.get? uri⟩ request
    ⟨inner.reply.map .within,
      ⟨desk.session.put inner.state.notebook, desk.held.keep uri inner.state.held⟩,
      inner.log.map .logged⟩

def call (desk : Desk) : Call → Answer
  | .openNotebook uri cells => desk.attempt .notebook (desk.session.openNotebook uri cells)
  | .closeNotebook uri => desk.finish (.diagnostics · []) (desk.session.closeNotebook uri)
  | .changeStructure uri opened closed =>
    desk.attempt .notebook (desk.session.changeStructure uri opened closed)
  | .changeContent uri cell edits version =>
    desk.attempt .cell (desk.session.changeContent uri cell edits version)
  | .document uri => desk.attempt .document (desk.session.document uri)
  | .projectFix uri fix => desk.attempt .fix (desk.session.projectFix uri fix)
  | .applyFix uri fix => desk.applyFix uri fix
  | .owner uri line => desk.finish .owner (desk.session.owner uri line)
  | .knowsCell cell => desk.tell (.ok (.known (desk.session.knowsCell cell)))
  | .notebookOfCell cell => desk.tell (.ok (.owner (desk.session.notebookOfCell cell)))
  | .clear uri => desk.attempt (.diagnostics · []) (desk.session.clear uri)
  | .within uri request => desk.within uri request

end Desk

mutual

def Request.handle : Request → Desk → Answer
  | .call call, desk =>
    let answer := desk.call call
    { answer with events := call.uri?.toList.map .addressed ++ answer.events }
  | .project uri findings analyzed, desk =>
    match desk.session.startPass uri analyzed with
    | ⟨none, events⟩ => ⟨.ok (.diagnostics [] []), desk, .addressed uri :: events⟩
    | ⟨some (pass, session), events⟩ =>
      let reading := findings.handle pass { desk with session }
      let ⟨(byCell, session), finishEvents⟩ := reading.desk.session.finishPass reading.pass
      ⟨.ok (.diagnostics byCell reading.during), { reading.desk with session },
        .addressed uri :: events ++ reading.events ++ finishEvents⟩

def Stream.handle : Stream → Pass → Desk → Reading
  | .done, pass, desk => ⟨pass, desk, [], []⟩
  | .finding finding rest, pass, desk =>
    let ⟨pass, log⟩ := pass.read finding
    let reading := rest.handle pass desk
    { reading with events := log.map .logged ++ reading.events }
  | .request request rest, pass, desk =>
    let inner := request.handle desk
    let reading := rest.handle pass inner.desk
    { reading with
      during := inner.reply :: reading.during
      events := inner.events ++ reading.events }

end

/-- The answers to requests that are handled one after the other. -/
def Desk.run (desk : Desk) : List Request → List Answer
  | [] => []
  | request :: rest =>
    let answer := request.handle desk
    answer :: answer.desk.run rest

/-- The uris addressed in the events, sorted. -/
def addressedUris (events : List Event) : List String :=
  CellDiagnostics.sortUris (events.filterMap Event.uri?).eraseDups

def diagnosed (session : Session) (uris : List String) : List (String × List String) :=
  uris.map fun uri ↦ (uri, session.board.markedCells uri)

end CellWeave.Session
