import CellWeave.Notebook
/-!
# Requests to a notebook

A run is a list of requests. A request that fails still counts: it gives an error and leaves the
notebook with the index it read.
-/

namespace CellWeave

/-- What handling a request gives: a reply or an error, the state after it, and the records made. -/
structure Outcome (σ ρ : Type) where
  reply : Except SyncError ρ
  state : σ
  log : List LogRecord

namespace Notebook

/-- Requests marked `held` are about the index that the last `hold` kept. -/
inductive Request where
  | replaceCells (cells : List Cell)
  | changeStructure (opened : List (Int × Cell)) (closed : List String)
  | changeContent (cell : String) (edits : List Edit) (version : Option Int)
  | text
  | document (language : Text)
  | cell (uri : String)
  | uris
  | describe
  | owner (line : Int)
  | hold
  | lines (held : Bool)
  | documentLine (held : Bool) (cell : String) (line : Int)
  | mapSpan (held : Bool) (span : Span)
  | mapEdits (held : Bool) (edits : List Edit)

inductive Reply where
  | done
  | cells (cells : List Cell)
  | cell (cell : Cell)
  | text (text : Text)
  | document (document : Document)
  | lookedUp (cell : Option Cell)
  | uris (uris : List String)
  | description (shown : String) (uri : String) (delimiter : Text)
  | owner (uri : Option String)
  | held (version : Int)
  | lines (version : Int) (lines : List (Option LocalLine))
  | documentLine (line : Option Nat)
  | cellSpan (span : CellSpan)
  | groups (groups : List EditGroup)

/-- A notebook and the index that was put aside last. -/
structure Desk where
  notebook : Notebook
  held : Option DocumentIndex

namespace Desk

def write (desk : Desk) (change : Except SyncError (Traced (Reply × Notebook))) :
    Outcome Desk Reply :=
  match change with
  | .ok ⟨(reply, notebook), log⟩ => ⟨.ok reply, { desk with notebook }, log⟩
  | .error error => ⟨.error error, desk, []⟩

def read (desk : Desk) (answer : DocumentIndex → Except SyncError Reply) : Outcome Desk Reply :=
  let ⟨(index, notebook), log⟩ := desk.notebook.readIndex
  ⟨answer index, { desk with notebook }, log⟩

/-- Reads the held index, or the current one where none is asked for or none is held. -/
def consult (desk : Desk) (held : Bool) (answer : DocumentIndex → Except SyncError Reply) :
    Outcome Desk Reply :=
  match desk.held.filter fun _ ↦ held with
  | some index => ⟨answer index, desk, []⟩
  | none => desk.read answer

def tell (desk : Desk) (reply : Reply) : Outcome Desk Reply :=
  ⟨.ok reply, desk, []⟩

def handle (desk : Desk) : Request → Outcome Desk Reply
  | .replaceCells cells => desk.write do
    return ⟨(.done, ← desk.notebook.replaceCells cells), []⟩
  | .changeStructure opened closed => desk.write do
    let ⟨(removed, notebook), log⟩ ← desk.notebook.changeStructure opened closed
    return ⟨(.cells removed, notebook), log⟩
  | .changeContent cell edits version => desk.write do
    let ⟨(changed, notebook), log⟩ ← desk.notebook.changeContent cell edits version
    return ⟨(.cell changed, notebook), log⟩
  | .text => desk.read fun index ↦ .ok (.text index.text)
  | .document language => desk.read fun index ↦
    .ok (.document (desk.notebook.documentOf language index))
  | .cell uri => desk.tell (.lookedUp (desk.notebook.cell? uri))
  | .uris => desk.tell (.uris desk.notebook.uris)
  | .describe => desk.tell
    (.description desk.notebook.shown desk.notebook.uri desk.notebook.delimiter.text)
  | .owner line => desk.read fun index ↦ .ok (.owner (index.owner line))
  | .hold =>
    let ⟨(index, notebook), log⟩ := desk.notebook.readIndex
    ⟨.ok (.held index.version), ⟨notebook, some index⟩, log⟩
  | .lines held => desk.consult held fun index ↦ .ok (.lines index.version index.allLines)
  | .documentLine held cell line => desk.consult held fun index ↦
    .ok (.documentLine (index.documentLine cell line))
  | .mapSpan held span => desk.consult held fun index ↦
    match index.toCellSpan span with
    | .ok mapped => .ok (.cellSpan mapped)
    | .error error => .error (.mapping error)
  | .mapEdits held edits => desk.consult held fun index ↦
    match index.toGroups edits with
    | .ok groups => .ok (.groups groups)
    | .error error => .error (.mapping error)

end Desk

end Notebook

end CellWeave
