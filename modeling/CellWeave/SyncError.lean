import CellWeave.CellSpan
import CellWeave.Delimiter
/-!
# Errors

An operation fails because its caller broke a condition, or because a place in the virtual document
is no place in a cell. Every cause is of one kind, and kinds belong to families.
-/

namespace CellWeave

inductive SyncError where
  | edit (error : EditError)
  | mapping (error : MappingError)
  | closingUnknownCell (cell : String)
  | changingUnknownCell (cell notebook : String)
  | repeatedCell (cell : String)
  | cellAlreadyOpen (cell : String)
  | positionOutside (cell : String) (position : Int) (count : Nat)
  | notebookNotOpen (uri : String)
  | delimiterMisfit (text : Text)
  deriving DecidableEq

inductive ErrorKind where
  | sync
  | contract
  | invalidEdit
  | overlappingEdits
  | unknownCell
  | duplicateCell
  | unknownNotebook
  | invalidDelimiter
  | projection
  | mappingMiss
  | crossCell
  deriving DecidableEq

inductive ErrorFamily where
  | sync
  | contract
  | invalidEdit
  | projection
  | badValue
  | missingKey
  deriving DecidableEq

namespace ErrorKind

def families : ErrorKind → List ErrorFamily
  | sync => [.sync]
  | contract | duplicateCell | invalidDelimiter => [.sync, .contract, .badValue]
  | invalidEdit | overlappingEdits => [.sync, .contract, .invalidEdit, .badValue]
  | unknownCell | unknownNotebook => [.sync, .contract, .badValue, .missingKey]
  | projection | mappingMiss | crossCell => [.sync, .projection]

end ErrorKind

namespace EditError

def kind : EditError → ErrorKind
  | overlap .. => .overlappingEdits
  | _ => .invalidEdit

end EditError

namespace MappingError

def kind : MappingError → ErrorKind
  | unindexed .. => .mappingMiss
  | acrossCells .. => .crossCell

end MappingError

namespace SyncError

def kind : SyncError → ErrorKind
  | edit error => error.kind
  | mapping error => error.kind
  | closingUnknownCell _ | changingUnknownCell .. => .unknownCell
  | repeatedCell _ | cellAlreadyOpen _ => .duplicateCell
  | positionOutside .. => .contract
  | notebookNotOpen _ => .unknownNotebook
  | delimiterMisfit _ => .invalidDelimiter

def message : SyncError → String
  | edit error => error.message
  | mapping error => error.message
  | closingUnknownCell cell => s!"Cannot close unknown cell {cell}"
  | changingUnknownCell cell notebook => s!"Content change for unknown cell {cell} in {notebook}"
  | repeatedCell cell => s!"Cell {cell} appears twice"
  | cellAlreadyOpen cell => s!"Cell {cell} is already open"
  | positionOutside cell position count =>
    s!"Cannot insert {cell} at position {position} of {count} cell(s)"
  | notebookNotOpen uri => s!"Notebook {uri} is not open"
  | delimiterMisfit text => Delimiter.misfitMessage text

end SyncError

namespace Delimiter

def parse (text : Text) : Except SyncError Delimiter :=
  match ofText? text with
  | some delimiter => .ok delimiter
  | none => .error (.delimiterMisfit text)

@[simp] theorem parse_text (delimiter : Delimiter) : parse delimiter.text = .ok delimiter := by
  rw [parse, ofText?_text]

end Delimiter

end CellWeave
