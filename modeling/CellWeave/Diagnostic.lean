import CellWeave.CellSpan
import CellWeave.Finding
/-!
# Diagnostics

A diagnostic is a finding moved into one cell. A finding that is in no single cell is dropped, a fix
is dropped if one of its edits is, and a flow loses the steps that are in no single cell. Whatever
is dropped leaves a warning.
-/

namespace CellWeave

structure CellFlowStep where
  cell : String
  span : Span
  message : String
  deriving DecidableEq

structure CellFix where
  message : String
  groups : List EditGroup
  deriving DecidableEq

structure Diagnostic where
  cell : String
  span : Span
  rule : String
  message : String
  severity : Option String
  flows : List (List CellFlowStep)
  fixes : List CellFix
  deriving DecidableEq

namespace CellFix

def ofFix (index : DocumentIndex) (fix : Fix) : Traced (Option CellFix) :=
  match index.toGroups fix.edits with
  | .ok groups => ⟨some ⟨fix.message, groups⟩, []⟩
  | .error error =>
    ⟨none, [.warning s!"[Projector] Dropping quick fix '{fix.message}': {error.message}"]⟩

end CellFix

namespace CellFlowStep

def ofStep (index : DocumentIndex) (step : FlowStep) : Traced (Option CellFlowStep) :=
  match index.toCellSpan step.span with
  | .ok placed => ⟨some ⟨placed.cell, placed.span, step.message⟩, []⟩
  | .error error =>
    ⟨none, [.warning s!"[Projector] Dropping flow location: {error.message}"]⟩

def ofFlow (index : DocumentIndex) (flow : List FlowStep) : Traced (List CellFlowStep) :=
  let placed := Traced.each (ofStep index) flow
  ⟨placed.value.filterMap id, placed.log⟩

end CellFlowStep

namespace Diagnostic

def ofFinding (index : DocumentIndex) (finding : Finding) : Traced (Option Diagnostic) :=
  match finding.span with
  | none =>
    ⟨none, [.warning (s!"[Projector] Dropping finding {finding.rule} without a location: " ++
      finding.message)]⟩
  | some span =>
    match index.toCellSpan span with
    | .error error =>
      ⟨none, [.warning s!"[Projector] Dropping finding {finding.rule}: {error.message}"]⟩
    | .ok placed =>
      let fixes := Traced.each (CellFix.ofFix index) finding.fixes
      let flows := Traced.each (CellFlowStep.ofFlow index) finding.flows
      let diagnostic : Diagnostic :=
        { cell := placed.cell
          span := placed.span
          rule := finding.rule
          message := finding.message
          severity := finding.severity
          flows := flows.value
          fixes := fixes.value.filterMap id }
      ⟨some diagnostic, fixes.log ++ flows.log⟩

end Diagnostic

end CellWeave
