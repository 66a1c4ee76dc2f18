import CellWeave.Proofs.Exact
import CellWeave.Proofs.Excerpt
import CellWeave.Proofs.Split
/-!
# What a pass leaves out

A finding that is in no single cell gives no diagnostic, and its fixes and flows are not looked at.
A diagnostic lacks the fixes of its finding that do not map as a whole and the flow steps that do
not map. For each of these a pass makes one warning, when it comes to it, and it makes no others.
-/

namespace CellWeave

open List (Forall₂)

/-- What is in a finding and not in what a pass makes of it. -/
inductive Omission where
  | finding (finding : Finding)
  | fix (fix : Fix)
  | step (step : FlowStep)
  deriving DecidableEq

namespace Omission

/-- The warning that says what is left out and why. A fix is left out for the first of its edits
that does not map. -/
inductive Reported (index : DocumentIndex) : Omission → LogRecord → Prop where
  | unlocated {finding : Finding} (hspan : finding.span = none) :
    Reported index (.finding finding) <| .warning <|
      s!"[Projector] Dropping finding {finding.rule} without a location: " ++ finding.message
  | unplaced {finding : Finding} {span : Span} {error : MappingError}
    (hspan : finding.span = some span) (hmisses : index.Misses span error) :
    Reported index (.finding finding) <| .warning
      s!"[Projector] Dropping finding {finding.rule}: {error.message}"
  | fix {fix : Fix} {before after : List Edit} {edit : Edit} {error : MappingError}
    (hedits : fix.edits = before ++ edit :: after)
    (hbefore : ∀ other ∈ before, index.maps other.span) (hmisses : index.Misses edit.span error) :
    Reported index (.fix fix) <| .warning
      s!"[Projector] Dropping quick fix '{fix.message}': {error.message}"
  | step {step : FlowStep} {error : MappingError} (hmisses : index.Misses step.span error) :
    Reported index (.step step) <| .warning
      s!"[Projector] Dropping flow location: {error.message}"

variable {index : DocumentIndex} {omission : Omission} {record : LogRecord}

theorem Reported.level_eq (h : Reported index omission record) : record.level = .warning := by
  cases h <;> rfl

end Omission

/-- A finding that is dropped, or the fixes and then the flow steps that its diagnostic lacks. -/
def Finding.omissions (index : DocumentIndex) (finding : Finding) : List Omission :=
  match finding.cell? index with
  | none => [.finding finding]
  | some _ =>
    let fixes := finding.fixes.filter fun fix ↦ !fix.edits.all fun edit ↦ index.maps edit.span
    let steps := finding.flows.flatten.filter fun step ↦ !index.maps step.span
    fixes.map .fix ++ steps.map .step

open Omission (Reported)

variable {index : DocumentIndex}

/-! ## Mapping -/

/-- Where each step makes a record for what it leaves out, all steps together do. -/
theorem forall₂_reported_each {α β : Type} {step : α → Traced β} {keeps : α → Bool}
    {omission : α → Omission}
    (h : ∀ item, Forall₂ (Reported index) (if keeps item then [] else [omission item])
      (step item).log) (items : List α) :
    Forall₂ (Reported index) ((items.filter fun item ↦ !keeps item).map omission)
      (Traced.each step items).log := by
  induction items with
  | nil => exact .nil
  | cons item rest ih =>
    have hcons : ((item :: rest).filter fun item ↦ !keeps item).map omission =
        (if keeps item then [] else [omission item]) ++
          (rest.filter fun item ↦ !keeps item).map omission := by
      cases hitem : keeps item <;> simp [hitem]
    rw [hcons]
    exact List.rel_append (h item) ih

theorem CellFix.reported_ofFix (fix : Fix) :
    Forall₂ (Reported index)
      (if fix.edits.all fun edit ↦ index.maps edit.span then [] else [.fix fix])
      (ofFix index fix).log := by
  rw [← isSome_ofFix, ofFix]
  split
  · exact .nil
  · next error herror =>
    obtain ⟨before, edit, after, hedits, hbefore, hedit⟩ :=
      DocumentIndex.toGroups_eq_error_iff.1 herror
    have hmaps : ∀ other ∈ before, index.maps other.span := by
      intro other hother
      exact Option.isSome_iff_exists.2
        (DocumentIndex.exists_toCellSpan_iff.1 (hbefore other hother))
    exact .cons (.fix hedits hmaps (DocumentIndex.toCellSpan_eq_error_iff.1 hedit)) .nil

namespace CellFlowStep

theorem reported_ofStep (step : FlowStep) :
    Forall₂ (Reported index) (if index.maps step.span then [] else [.step step])
      (ofStep index step).log := by
  rw [← isSome_ofStep, ofStep]
  split
  · exact .nil
  · next error herror =>
    exact .cons (.step (DocumentIndex.toCellSpan_eq_error_iff.1 herror)) .nil

/-- The steps are looked at one after the other, whichever flows they are in. -/
theorem log_each_ofFlow (flows : List (List FlowStep)) :
    (Traced.each (ofFlow index) flows).log = (Traced.each (ofStep index) flows.flatten).log := by
  rw [← List.flatMap_id, Traced.each, Traced.each, List.flatMap_assoc]
  rfl

end CellFlowStep

/-- A finding makes one record for each thing that it leaves out. -/
theorem Diagnostic.reported_ofFinding (finding : Finding) :
    Forall₂ (Reported index) (finding.omissions index) (ofFinding index finding).log := by
  cases hspan : finding.span with
  | none =>
    have hcell : finding.cell? index = none := by
      rw [Finding.cell?, hspan, Option.bind_none]
    rw [Finding.omissions, hcell, ofFinding, hspan]
    exact .cons (.unlocated hspan) .nil
  | some span =>
    have hcell : finding.cell? index = index.cellOf? span := by
      rw [Finding.cell?, hspan, Option.bind_some]
    rw [Finding.omissions, hcell, ofFinding, hspan]
    cases hplaced : index.toCellSpan span with
    | error error =>
      rw [DocumentIndex.cellOf?_eq_none_of_error hplaced]
      simp only [hplaced]
      exact .cons (.unplaced hspan (DocumentIndex.toCellSpan_eq_error_iff.1 hplaced)) .nil
    | ok placed =>
      rw [(DocumentIndex.toCellSpan_eq_ok_iff.1 hplaced).cellOf?_eq]
      simp only [hplaced, CellFlowStep.log_each_ofFlow]
      exact List.rel_append (forall₂_reported_each CellFix.reported_ofFix finding.fixes)
        (forall₂_reported_each CellFlowStep.reported_ofStep finding.flows.flatten)

/-! ## Passes -/

namespace Pass

theorem log_read (pass : Pass) (finding : Finding) :
    (pass.read finding).log = (Diagnostic.ofFinding pass.index finding).log := by
  unfold read
  dsimp only
  split <;> rfl

theorem log_readAll_cons (pass : Pass) (finding : Finding) (rest : List Finding) :
    (pass.readAll (finding :: rest)).log = (Diagnostic.ofFinding pass.index finding).log ++
      ((pass.read finding).value.readAll rest).log := by
  rw [← log_read]
  rfl

/-- Findings are read with one index, and the records of one come before those of the next. -/
theorem reported_readAll (pass : Pass) (findings : List Finding) :
    Forall₂ (Reported pass.index) (findings.flatMap (Finding.omissions pass.index))
      (pass.readAll findings).log := by
  induction findings generalizing pass with
  | nil => exact .nil
  | cons finding rest ih =>
    have hrest := ih (pass.read finding).value
    rw [(pass.read_keeps finding).2.2] at hrest
    rw [List.flatMap_cons, log_readAll_cons]
    exact List.rel_append (Diagnostic.reported_ofFinding finding) hrest

end Pass

/-- The records that are made with the log open at warnings. -/
def warnings (log : List LogRecord) : List LogRecord :=
  log.filter fun record ↦ Level.warning.value ≤ record.level.value

theorem warnings_append (log later : List LogRecord) :
    warnings (log ++ later) = warnings log ++ warnings later :=
  List.filter_append log later

/-- Every record of an omission is a warning. -/
theorem warnings_of_reported {omissions : List Omission} {log : List LogRecord}
    (h : Forall₂ (Reported index) omissions log) : warnings log = log := by
  induction h with
  | nil => rfl
  | @cons _ record _ _ hrecord _ ih =>
    have hwarning : Level.warning.value ≤ record.level.value := by
      rw [hrecord.level_eq]
    rw [warnings, List.filter_cons, if_pos (decide_eq_true hwarning)]
    exact congrArg (record :: ·) ih

theorem Notebook.warnings_readIndex (notebook : Notebook) :
    warnings notebook.readIndex.log = [] := by
  unfold readIndex
  split <;> rfl

namespace Board

theorem warnings_start (board : Board) (notebook : Notebook) (analyzed : Option Int) :
    warnings (board.start notebook analyzed).log = [] := by
  unfold start
  split
  · rfl
  · split
    · rfl
    · exact notebook.warnings_readIndex

theorem warnings_finish (board : Board) (pass : Pass) :
    warnings (board.finish pass).log = [] := by
  unfold finish
  split <;> rfl

/-- A stream without requests leaves the desk as it is. -/
theorem Stream.handle_of_requests_eq_nil {stream : Stream} (h : stream.requests = [])
    (pass : Pass) (desk : Desk) : stream.handle pass desk =
      ⟨(pass.readAll stream.findings).value, desk, [], (pass.readAll stream.findings).log⟩ := by
  match stream with
  | .done => rfl
  | .finding first rest =>
    have hrest : rest.requests = [] := h
    simp only [Stream.handle, handle_of_requests_eq_nil hrest, Stream.findings, Pass.readAll]
  | .request _ _ => exact absurd h (List.cons_ne_nil _ _)
termination_by structural stream

variable {desk : Desk} {place : Nat} {notebook kept : Notebook} {analyzed : Option Int}
  {pass : Pass}

/-- A projection of findings alone warns once of each thing that it leaves out, in the order in
which it comes to them, and of nothing else. If the findings are stale or the notebook was cleared,
it leaves them all out without a warning. -/
theorem project_reported (hreached : desk.Reached) (hopen : desk.notebook? place = some notebook)
    (analyzed : Option Int) (findings : Stream) :
    (findings.requests = [] →
      (∀ version, analyzed = some version → version = notebook.version) →
      notebook.incarnation ∉ desk.board.retired →
      ∃ byCell, ((Request.project place findings analyzed).handle desk).reply =
          .ok (.projected byCell []) ∧
        byCell.Exact notebook findings.findings (desk.board.rememberedCells notebook.uri) ∧
        Forall₂ (Reported notebook.index)
          (findings.findings.flatMap (Finding.omissions notebook.index))
          (warnings ((Request.project place findings analyzed).handle desk).log)) ∧
    ((∃ version, analyzed = some version ∧ version ≠ notebook.version) ∨
        notebook.incarnation ∈ desk.board.retired →
      ((Request.project place findings analyzed).handle desk).reply = .ok (.projected [] []) ∧
        warnings ((Request.project place findings analyzed).handle desk).log = []) := by
  have hkeeps := hreached.wellKept.of_notebook? hopen
  constructor
  · intro hflat hversion hretired
    obtain ⟨⟨pass, kept⟩, hstart⟩ :=
      Option.ne_none_iff_exists'.1 (start_ne_none hversion hretired)
    have hexact := (exact_finish hkeeps hstart findings.findings
      (hreached.wellKept.nodup_remembered notebook.uri) hretired).1
    have hindex := index_of_start hkeeps hstart
    have hreported := pass.reported_readAll findings.findings
    rw [handle_project_of_start findings hopen hstart, Stream.handle_of_requests_eq_nil hflat,
      hflat]
    refine ⟨_, rfl, hexact, ?_⟩
    rw [warnings_append, warnings_append, warnings_start, warnings_finish, List.nil_append,
      List.append_nil, warnings_of_reported hreported, ← hindex]
    exact hreported
  · intro hnone
    have hstart : (desk.board.start notebook analyzed).value = none := by
      rw [Option.eq_none_iff_forall_ne_some]
      rintro ⟨pass, kept⟩ hstart
      obtain ⟨hversion, hretired, -, -⟩ := Board.start_eq_some hstart
      rcases hnone with ⟨version, hanalyzed, hne⟩ | hmem
      · exact hne (hversion version hanalyzed)
      · rw [hasRetired_iff.2 hmem] at hretired
        exact absurd hretired nofun
    rw [handle_project_of_start_none findings hopen hstart]
    exact ⟨rfl, warnings_start desk.board notebook analyzed⟩

/-- A finding that loses a fix and a flow step, one without a span, whose fix is not looked at, and
one that ends below the document. -/
def partlyOutside : Stream :=
  .finding ⟨"r", "m", some (.of 1 0 1 1), none, [[⟨.of 1 0 1 1, ""⟩, ⟨.of 9 0 9 1, ""⟩]],
      [⟨"f", [⟨.of 1 0 1 1, []⟩]⟩, ⟨"g", [⟨.of 1 0 1 1, []⟩, ⟨.of 8 0 8 1, []⟩]⟩]⟩
    (.finding ⟨"s", "n", none, none, [], [⟨"h", [⟨.of 8 0 8 1, []⟩]⟩]⟩
      (.finding ⟨"t", "o", some (.of 1 0 7 0), none, [], []⟩ .done))

theorem project_reported_partlyOutside : ∃ notebook byCell,
    oneCell.Reached ∧ oneCell.notebook? 0 = some notebook ∧
    notebook.incarnation ∉ oneCell.board.retired ∧
    ((Request.project 0 partlyOutside (some 1)).handle oneCell).reply =
      .ok (.projected byCell []) ∧
    byCell.Exact notebook partlyOutside.findings [] ∧
    Forall₂ (Reported notebook.index)
      (partlyOutside.findings.flatMap (Finding.omissions notebook.index))
      (warnings ((Request.project 0 partlyOutside (some 1)).handle oneCell).log) ∧
    (warnings ((Request.project 0 partlyOutside (some 1)).handle oneCell).log).map (·.message) =
      ["[Projector] Dropping quick fix 'g': Line 8 is not indexed at version 1 (1 line(s))",
        "[Projector] Dropping flow location: Line 9 is not indexed at version 1 (1 line(s))",
        "[Projector] Dropping finding s without a location: n",
        "[Projector] Dropping finding t: Line 7 is not indexed at version 1 (1 line(s))"
      ].map .ofString ∧
    warnings ((Request.project 0 partlyOutside (some 0)).handle oneCell).log = [] := by
  have hreached : oneCell.Reached := Desk.Reached.empty.after _
  have hopen : oneCell.notebook? 0 = some ⟨"u", .default, 0, 1, oneCellTable, none⟩ := by
    decide +kernel
  have hretired : 0 ∉ oneCell.board.retired := by
    decide +kernel
  obtain ⟨byCell, hreply, hexact, hreported⟩ :=
    (project_reported hreached hopen (some 1) partlyOutside).1 rfl (by simp) hretired
  have hstale := (project_reported hreached hopen (some 0) partlyOutside).2
    (.inl ⟨0, rfl, by decide⟩)
  exact ⟨_, byCell, hreached, hopen, hretired, hreply, hexact, hreported, by decide +kernel,
    hstale.2⟩

end Board

end CellWeave
