import CellWeave.Edit
/-!
# Findings

What an analyzer reports about the virtual document. A finding without a span is about the whole
document. The edits of a fix are made together or not at all.
-/

namespace CellWeave

structure FlowStep where
  span : Span
  message : String
  deriving DecidableEq

structure Fix where
  message : String
  edits : List Edit
  deriving DecidableEq

structure Finding where
  rule : String
  message : String
  span : Option Span
  severity : Option String
  flows : List (List FlowStep)
  fixes : List Fix
  deriving DecidableEq

end CellWeave
