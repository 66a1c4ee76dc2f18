import CellWeave.Notebook.Request
import CellWeave.Board
/-!
# Requests to a board and its notebooks

The notebooks are independent of each other and may have one uri. Findings come as a stream: when
the pass gets to a request in it, that request is handled before the next finding is read. A stream
comes to an end: one that fails on the way, and the projection with it, is left out.
-/

namespace CellWeave.Board

/-- Requests other than projections. Notebooks are named by their place in the list. -/
inductive Call where
  | projectFix (notebook : Nat) (fix : Fix)
  | clear (notebook : Nat)
  | clearCell (uri cell : String)
  | markedCells (uri : String)
  | add (uri : String) (delimiter : Text) (version : Int) (cells : Option (List Cell))
  | within (notebook : Nat) (request : Notebook.Request)

mutual

inductive Request where
  | call (call : Call)
  | project (notebook : Nat) (findings : Stream) (analyzed : Option Int)

inductive Stream where
  | done
  | finding (finding : Finding) (rest : Stream)
  | request (request : Request) (rest : Stream)

end

/-- The answers in `during` are those of the requests in the stream of findings. -/
inductive Reply where
  | projected (byCell : CellDiagnostics) (during : List (Except SyncError Reply))
  | fix (fix : Option CellFix)
  | cells (uris : List String)
  | added (place : Nat)
  | within (reply : Notebook.Reply)
  | absent

/-- A board and the notebooks, each with the index that was put aside last for it. -/
structure Desk where
  board : Board
  notebooks : List Notebook.Desk

/-- What reading a stream gives: the pass after it, the state, the answers and the records. -/
structure Reading where
  pass : Pass
  desk : Desk
  during : List (Except SyncError Reply)
  log : List LogRecord

namespace Desk

def empty : Desk :=
  ⟨.empty, []⟩

def add (desk : Desk) (uri : String) (delimiter : Text) (version : Int)
    (cells : Option (List Cell)) : Except SyncError Desk := do
  let delimiter ← Delimiter.parse delimiter
  let blank := Notebook.start uri delimiter desk.notebooks.length version
  let notebook ← match cells with
    | some cells => blank.replaceCells cells
    | none => .ok blank
  return { desk with notebooks := desk.notebooks ++ [⟨notebook, none⟩] }

def put (desk : Desk) (place : Nat) (notebook : Notebook) : Desk :=
  { desk with
    notebooks := desk.notebooks.modify place fun own ↦ { own with notebook } }

def tell (desk : Desk) (reply : Except SyncError Reply) : Outcome Desk Reply :=
  ⟨reply, desk, []⟩

def notebook? (desk : Desk) (place : Nat) : Option Notebook :=
  desk.notebooks[place]?.map (·.notebook)

def onNotebook (desk : Desk) (place : Nat) (use : Notebook → Outcome Desk Reply) :
    Outcome Desk Reply :=
  match desk.notebook? place with
  | some notebook => use notebook
  | none => desk.tell (.ok .absent)

def within (desk : Desk) (place : Nat) (request : Notebook.Request) : Outcome Desk Reply :=
  match desk.notebooks[place]? with
  | some own =>
    let inner := own.handle request
    ⟨inner.reply.map .within, { desk with notebooks := desk.notebooks.set place inner.state },
      inner.log⟩
  | none => desk.tell (.ok .absent)

def call (desk : Desk) : Call → Outcome Desk Reply
  | .projectFix place fix => desk.onNotebook place fun notebook ↦
    let ⟨(projected, notebook), log⟩ := Board.projectFix notebook fix
    ⟨.ok (.fix projected), desk.put place notebook, log⟩
  | .clear place => desk.onNotebook place fun notebook ↦
    let ⟨(emptied, board), log⟩ := desk.board.clear notebook
    ⟨.ok (.projected emptied []), { desk with board }, log⟩
  | .clearCell uri cell =>
    let (emptied, board) := desk.board.clearCell uri cell
    ⟨.ok (.projected emptied []), { desk with board }, []⟩
  | .markedCells uri => desk.tell (.ok (.cells (desk.board.markedCells uri)))
  | .add uri delimiter version cells =>
    match desk.add uri delimiter version cells with
    | .ok changed => ⟨.ok (.added desk.notebooks.length), changed, []⟩
    | .error error => desk.tell (.error error)
  | .within place request => desk.within place request

end Desk

mutual

def Request.handle : Request → Desk → Outcome Desk Reply
  | .call call, desk => desk.call call
  | .project place findings analyzed, desk =>
    match desk.notebook? place with
    | none => desk.tell (.ok .absent)
    | some notebook =>
      match desk.board.start notebook analyzed with
      | ⟨none, log⟩ => ⟨.ok (.projected [] []), desk, log⟩
      | ⟨some (pass, notebook), log⟩ =>
        let reading := findings.handle pass (desk.put place notebook)
        let ⟨(byCell, board), finishLog⟩ := reading.desk.board.finish reading.pass
        ⟨.ok (.projected byCell reading.during), { reading.desk with board },
          log ++ reading.log ++ finishLog⟩

def Stream.handle : Stream → Pass → Desk → Reading
  | .done, pass, desk => ⟨pass, desk, [], []⟩
  | .finding finding rest, pass, desk =>
    let ⟨pass, log⟩ := pass.read finding
    let reading := rest.handle pass desk
    { reading with log := log ++ reading.log }
  | .request request rest, pass, desk =>
    let inner := request.handle desk
    let reading := rest.handle pass inner.state
    { reading with during := inner.reply :: reading.during, log := inner.log ++ reading.log }

end

/-- What is remembered for each uri among the notebooks, in the order of the uris. -/
def Desk.diagnosed (desk : Desk) : List (String × List String) :=
  let uris := CellDiagnostics.sortUris (desk.notebooks.map (·.notebook.uri)).eraseDups
  uris.map fun uri ↦ (uri, desk.board.markedCells uri)

end CellWeave.Board
