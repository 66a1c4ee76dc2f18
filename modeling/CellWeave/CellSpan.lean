import CellWeave.Edit
import CellWeave.DocumentIndex
/-!
# From the virtual document to its cells

A virtual span is a span of one cell if both its lines show that cell. Columns stay as they are:
joining cells moves lines only. Edits are grouped under their cells, all of them or none.
-/

namespace CellWeave

inductive MappingError where
  | unindexed (line version : Int) (lineCount : Nat)
  | acrossCells (span : Span) (first second : String)
  deriving DecidableEq

namespace MappingError

def message : MappingError → String
  | unindexed line version lineCount =>
    s!"Line {line} is not indexed at version {version} ({lineCount} line(s))"
  | acrossCells span first second =>
    s!"Range {span.start.shown}-{span.stop.shown} spans {first} and {second}"

end MappingError

/-- A span in the lines of one cell. -/
structure CellSpan where
  cell : String
  span : Span
  deriving DecidableEq

/-- Edits that all land in one cell. -/
structure EditGroup where
  cell : String
  edits : List Edit
  deriving DecidableEq

namespace DocumentIndex

def locate (index : DocumentIndex) (line : Int) : Except MappingError LocalLine :=
  match index.line? line with
  | some entry => .ok entry
  | none => .error (.unindexed line index.version index.lineCount)

def toCellSpan (index : DocumentIndex) (span : Span) : Except MappingError CellSpan := do
  let first ← index.locate span.start.line
  let last ← index.locate span.stop.line
  if first.cell = last.cell then
    return ⟨first.cell, span.onLines first.line last.line⟩
  else throw (.acrossCells span first.cell last.cell)

def toCellEdit (index : DocumentIndex) (edit : Edit) : Except MappingError (String × Edit) := do
  let mapped ← index.toCellSpan edit.span
  return (mapped.cell, ⟨mapped.span, edit.replacement⟩)

/-- Puts each edit at the end of its cell's group; a new cell's group comes last. -/
def groupEdits (edits : List (String × Edit)) : List EditGroup :=
  let groups : Table (List Edit) := edits.foldl
    (fun groups (cell, edit) ↦ groups.set cell ((groups.get? cell).getD [] ++ [edit])) []
  groups.map fun (cell, edits) ↦ ⟨cell, edits⟩

def toGroups (index : DocumentIndex) (edits : List Edit) :
    Except MappingError (List EditGroup) := do
  let mapped ← edits.mapM index.toCellEdit
  return groupEdits mapped

end DocumentIndex

end CellWeave
