import CellWeave.CellTable
/-!
# Notebooks

An open notebook is an ordered list of cells with distinct uris. Every change raises its version by
one, and a change that fails leaves it as it was. The line index of a version is built when it is
first asked for and kept until the next change.
-/

namespace CellWeave

/-- `incarnation` tells apart notebooks that were opened under one uri. -/
structure Notebook where
  uri : String
  delimiter : Delimiter
  incarnation : Nat
  version : Int
  table : CellTable
  kept : Option DocumentIndex
  deriving DecidableEq

/-- What an analyzer is given for one version of a notebook. -/
structure Document where
  notebook : String
  version : Int
  text : Text
  language : Text
  deriving DecidableEq

namespace Notebook

def standardLanguage : Text :=
  .ofString "ipynb"

/-- A notebook without cells. -/
def start (uri : String) (delimiter : Delimiter) (incarnation : Nat) (version : Int) : Notebook :=
  ⟨uri, delimiter, incarnation, version, .empty, none⟩

abbrev cells (notebook : Notebook) : List Cell :=
  notebook.table.ordered

def uris (notebook : Notebook) : List String :=
  notebook.cells.map (·.uri)

def cell? (notebook : Notebook) (uri : String) : Option Cell :=
  notebook.table.get? uri

def has (notebook : Notebook) (uri : String) : Bool :=
  (notebook.cell? uri).isSome

def shown (notebook : Notebook) : String :=
  let uri := String.ofList (Text.quoted (.ofString notebook.uri))
  s!"Notebook(uri={uri}, version={notebook.version}, cells={notebook.cells.length})"

/-! ## Changes -/

def withTable (notebook : Notebook) (table : CellTable) : Notebook :=
  { notebook with table, version := notebook.version + 1 }

/-- Takes `cells` in place of all cells. -/
def replaceCells (notebook : Notebook) (cells : List Cell) : Except SyncError Notebook := do
  return notebook.withTable (← CellTable.of cells)

/-- Inserts each cell at its position in the list as the insertions before it left it. -/
def insertAll (cells : List Cell) : List (Int × Cell) → Except SyncError (List Cell)
  | [] => .ok cells
  | (position, cell) :: rest =>
    if cell.uri ∈ cells.map (·.uri) then .error (.cellAlreadyOpen cell.uri)
    else if position < 0 ∨ position > cells.length then
      .error (.positionOutside cell.uri position cells.length)
    else insertAll (cells.insertIdx position.toNat cell) rest

def structureLog (removed : List Cell) (notebook : Notebook) : List LogRecord :=
  [.debug (s!"[Notebook] {notebook.uri}: closed {removed.length} cell(s), " ++
    s!"now {notebook.cells.length} cell(s) at version {notebook.version}")]

/-- Takes away the cells named in `closed`, then inserts those in `opened`. Gives the cells that
were taken away, in notebook order. -/
def changeStructure (notebook : Notebook) (opened : List (Int × Cell)) (closed : List String) :
    Except SyncError (Traced (List Cell × Notebook)) := do
  if let some unknown := closed.find? fun uri ↦ !notebook.has uri then
    throw (.closingUnknownCell unknown)
  let (removed, staying) := notebook.cells.partition fun cell ↦ cell.uri ∈ closed
  let cells ← insertAll staying opened
  let changed ← notebook.replaceCells cells
  return ⟨(removed, changed), structureLog removed changed⟩

/-- Edits the text of one cell. The cell takes the editor's version, if there is one, and the next
version if not. -/
def changeContent (notebook : Notebook) (uri : String) (edits : List Edit)
    (version : Option Int) : Except SyncError (Traced (Cell × Notebook)) := do
  let some cell := notebook.cell? uri | throw (.changingUnknownCell uri notebook.uri)
  match Edit.applyAll cell.text edits with
  | .error error => throw (.edit error)
  | .ok text =>
    let changed : Cell := { cell with text, version := version.getD (cell.version + 1) }
    return ⟨(changed, notebook.withTable (notebook.table.update changed)), Edit.appliedLog edits⟩

/-! ## The virtual document -/

def index (notebook : Notebook) : DocumentIndex :=
  .ofCells notebook.cells notebook.version notebook.delimiter.text

/-- The index of the current version, with the notebook that keeps it. -/
def readIndex (notebook : Notebook) : Traced (DocumentIndex × Notebook) :=
  match notebook.kept.filter (·.version = notebook.version) with
  | some kept => ⟨(kept, notebook), []⟩
  | none =>
    let built := notebook.index
    ⟨(built, { notebook with kept := some built }), built.indexedLog notebook.cells.length⟩

def documentOf (notebook : Notebook) (language : Text) (index : DocumentIndex) : Document :=
  ⟨notebook.uri, index.version, index.text, language⟩

end Notebook

end CellWeave
