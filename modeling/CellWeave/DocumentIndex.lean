import CellWeave.Cell
import CellWeave.Log
import CellWeave.Table
/-!
# The virtual document and its line index

The virtual document is the text of all cells with a delimiter line between neighbours. A cell
before the last one is given a final feed if its text is not empty and has none, and the empty line
after its final feed is where the delimiter stands, so that line is not the cell's. The index says
for each virtual line which line of which cell it shows; a delimiter line shows the first line of
the cell after it.
-/

namespace CellWeave

/-- A line of one cell, counted from 1. -/
structure LocalLine where
  cell : String
  line : Nat
  deriving DecidableEq

/-- Where the lines of a cell stand in the virtual document. -/
structure LineBlock where
  first : Nat
  count : Nat
  deriving DecidableEq

structure DocumentIndex where
  version : Int
  text : Text
  entries : List LocalLine
  blocks : Table LineBlock
  deriving DecidableEq

namespace DocumentIndex

/-- How many lines a cell with this text has in the virtual document. -/
def contentCount (text : Text) (isLast : Bool) : Nat :=
  if !isLast && text.endsEmpty then text.lines.length - 1 else text.lines.length

/-- The text with a feed after its last line, if anything stands on that line. -/
def closeLine (text : Text) : Text :=
  if text.endsEmpty then text else text ++ [feed]

def virtualText (delimiter : Text) : List Cell → Text
  | [] => []
  | [cell] => cell.text
  | cell :: rest => closeLine cell.text ++ delimiter ++ virtualText delimiter rest

def contentEntries (cell : Cell) (isLast : Bool) : List LocalLine :=
  (List.range (contentCount cell.text isLast)).map fun n ↦ ⟨cell.uri, n + 1⟩

def entriesOf : List Cell → List LocalLine
  | [] => []
  | [cell] => contentEntries cell true
  | cell :: next :: rest =>
    contentEntries cell false ++ ⟨next.uri, 1⟩ :: entriesOf (next :: rest)

/-- The blocks of the cells, the first of which begins at virtual line `first`. -/
def blocksFrom (first : Nat) : List Cell → List (String × LineBlock)
  | [] => []
  | [cell] => [(cell.uri, ⟨first, contentCount cell.text true⟩)]
  | cell :: rest =>
    let count := contentCount cell.text false
    (cell.uri, ⟨first, count⟩) :: blocksFrom (first + count + 1) rest

def ofCells (cells : List Cell) (version : Int) (delimiter : Text) : DocumentIndex where
  version := version
  text := virtualText delimiter cells
  entries := entriesOf cells
  blocks := .ofList (blocksFrom 1 cells)

def lineCount (index : DocumentIndex) : Nat :=
  index.entries.length

def uris (index : DocumentIndex) : List String :=
  index.blocks.keys

def line? (index : DocumentIndex) (line : Int) : Option LocalLine :=
  if line < 1 then none else index.entries[(line - 1).toNat]?

def owner (index : DocumentIndex) (line : Int) : Option String :=
  (index.line? line).map (·.cell)

/-- The virtual line that shows a line of a cell. -/
def documentLine (index : DocumentIndex) (cell : String) (line : Int) : Option Nat :=
  match index.blocks.get? cell with
  | none => none
  | some block =>
    if line < 1 ∨ line > block.count then none else some (block.first + line.toNat - 1)

def lineCountOf (index : DocumentIndex) (cell : String) : Nat :=
  match index.blocks.get? cell with
  | none => 0
  | some block => block.count

/-- The cell lines of the whole document from its first line on. -/
def allLines (index : DocumentIndex) : List (Option LocalLine) :=
  (List.range index.lineCount).map fun (n : Nat) ↦ index.line? (n + 1)

def indexedLog (index : DocumentIndex) (cellCount : Nat) : List LogRecord :=
  [.debug (s!"[LineIndex] Indexed {index.lineCount} line(s) across {cellCount} cell(s) " ++
    s!"for version {index.version}")]

end DocumentIndex

end CellWeave
