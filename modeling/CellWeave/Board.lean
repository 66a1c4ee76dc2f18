import CellWeave.Diagnostic
import CellWeave.Notebook
/-!
# The board of diagnostics

An editor keeps the diagnostics of a cell until it is sent others for that cell. The board therefore
remembers which cells had some in the last pass, and a pass names those that have none now, also
when they are no longer in the notebook. A pass begins with the index of one version of a notebook,
reads findings one by one, and counts only if the notebook was not retired by its end.
-/

namespace CellWeave

/-- The diagnostics of each cell; an empty list takes away those the editor has. -/
abbrev CellDiagnostics := Table (List Diagnostic)

/-- `retired` holds the incarnations of the notebooks that are done with. -/
structure Board where
  remembered : Table (List String)
  retired : List Nat
  deriving DecidableEq

/-- A projection under way. -/
structure Pass where
  notebook : String
  incarnation : Nat
  index : DocumentIndex
  byCell : CellDiagnostics
  total : Nat
  dropped : Nat
  deriving DecidableEq

namespace CellDiagnostics

def blank (cells : List String) : CellDiagnostics :=
  cells.map fun cell ↦ (cell, [])

def sortUris (uris : List String) : List String :=
  uris.mergeSort fun first second ↦ !decide (second < first)

/-- Adds the cells in `before` that are not there yet, sorted and without diagnostics. -/
def withLeftovers (byCell : CellDiagnostics) (before : List String) : CellDiagnostics :=
  byCell ++ blank (sortUris (before.filter fun cell ↦ !byCell.has cell))

def withIssues (byCell : CellDiagnostics) : List String :=
  Table.keys (byCell.filter fun entry ↦ !entry.2.isEmpty)

end CellDiagnostics

namespace Pass

def read (pass : Pass) (finding : Finding) : Traced Pass :=
  let projected := Diagnostic.ofFinding pass.index finding
  match projected.value with
  | none => ⟨{ pass with total := pass.total + 1, dropped := pass.dropped + 1 }, projected.log⟩
  | some diagnostic =>
    let before := (pass.byCell.get? diagnostic.cell).getD []
    let byCell := pass.byCell.set diagnostic.cell (before ++ [diagnostic])
    ⟨{ pass with total := pass.total + 1, byCell }, projected.log⟩

end Pass

namespace Board

def empty : Board :=
  ⟨[], []⟩

def rememberedCells (board : Board) (uri : String) : List String :=
  (board.remembered.get? uri).getD []

/-- The cells of a notebook that had diagnostics in its last pass. -/
def markedCells (board : Board) (uri : String) : List String :=
  CellDiagnostics.sortUris (board.rememberedCells uri)

def hasRetired (board : Board) (incarnation : Nat) : Bool :=
  board.retired.contains incarnation

/-- Begins a pass, unless the findings are for another version or the notebook was retired. -/
def start (board : Board) (notebook : Notebook) (analyzed : Option Int) :
    Traced (Option (Pass × Notebook)) :=
  match analyzed.filter (· ≠ notebook.version) with
  | some version =>
    ⟨none, [.debug (s!"[Projector] Ignoring findings for {notebook.uri} at version {version}, " ++
      s!"notebook is at version {notebook.version}")]⟩
  | none =>
    if board.hasRetired notebook.incarnation then
      ⟨none, [.debug s!"[Projector] Ignoring findings for closed notebook {notebook.uri}"]⟩
    else
      let ⟨(index, notebook), log⟩ := notebook.readIndex
      let pass : Pass :=
        { notebook := notebook.uri
          incarnation := notebook.incarnation
          index := index
          byCell := .blank index.uris
          total := 0
          dropped := 0 }
      ⟨some (pass, notebook), log⟩

def finishLog (pass : Pass) : List LogRecord :=
  [.debug (s!"[Projector] {pass.notebook} v{pass.index.version}: {pass.total} finding(s), " ++
    s!"{pass.dropped} dropped, {pass.byCell.withIssues.length} cell(s) with issues")]

def finish (board : Board) (pass : Pass) : Traced (CellDiagnostics × Board) :=
  if board.hasRetired pass.incarnation then
    ⟨([], board), [.debug s!"[Projector] {pass.notebook} was closed during projection"]⟩
  else
    let before := board.rememberedCells pass.notebook
    let remembered := board.remembered.set pass.notebook pass.byCell.withIssues
    ⟨(pass.byCell.withLeftovers before, { board with remembered }), finishLog pass⟩

/-- The groups of a quick fix, if all its edits can be mapped. -/
def projectFix (notebook : Notebook) (fix : Fix) : Traced (Option CellFix × Notebook) :=
  let ⟨(index, notebook), log⟩ := notebook.readIndex
  let projected := CellFix.ofFix index fix
  ⟨(projected.value, notebook), log ++ projected.log⟩

/-- Retires a notebook: an empty list for each of its cells, the first time only. -/
def clear (board : Board) (notebook : Notebook) : Traced (CellDiagnostics × Board) :=
  if board.hasRetired notebook.incarnation then ⟨([], board), []⟩
  else
    let before := board.rememberedCells notebook.uri
    let emptied := (CellDiagnostics.blank notebook.uris).withLeftovers before
    let changed : Board :=
      ⟨board.remembered.erase notebook.uri, notebook.incarnation :: board.retired⟩
    ⟨(emptied, changed),
      [.debug s!"[Projector] Cleared {emptied.length} cell(s) of {notebook.uri}"]⟩

def clearCell (board : Board) (uri cell : String) : CellDiagnostics × Board :=
  let remembered := match board.remembered.get? uri with
    | some cells => board.remembered.set uri (cells.filter (· != cell))
    | none => board.remembered
  ([(cell, [])], { board with remembered })

end Board

end CellWeave
