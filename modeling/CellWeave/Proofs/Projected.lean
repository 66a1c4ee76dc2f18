import CellWeave.Proofs.Omitted
import CellWeave.Proofs.Pass
import CellWeave.Proofs.Underlying
/-!
# Projections of a session

Wherever a projection comes in a run of a session, and whatever is asked of the session between its
findings, it is about the notebook as it was at the start: it gives and sends the exact diagnostics
of its findings, unless the notebook is retired by its end, and it says what it leaves out. A fix
that a client makes then changes the notebook by the groups that the fix is projected to.
-/

namespace CellWeave

open List (Forall₂)
open Omission (Reported)

namespace Session

/-! ## Records -/

/-- The records that are made in the course of some events. -/
def recordsIn (events : List Event) : List LogRecord :=
  events.filterMap Event.record?

theorem recordsIn_append (first second : List Event) :
    recordsIn (first ++ second) = recordsIn first ++ recordsIn second :=
  List.filterMap_append

theorem recordsIn_addressed_cons (uri : String) (events : List Event) :
    recordsIn (.addressed uri :: events) = recordsIn events :=
  rfl

theorem recordsIn_map_logged (log : List LogRecord) : recordsIn (log.map .logged) = log := by
  rw [recordsIn, List.filterMap_map]
  exact List.filterMap_some

theorem recordsIn_publications (session : Session) (byCell : CellDiagnostics) :
    recordsIn (session.publications byCell) = [] := by
  unfold publications
  split
  · rw [recordsIn, List.filterMap_map, List.filterMap_eq_nil_iff]
    exact fun _ _ ↦ rfl
  · rfl

/-! ## Outcomes -/

variable {language : Text} {delimiter : Delimiter} {publishes : Bool} {requests : List Request}
  {desk begun : Desk} {uri : String} {notebook : Notebook} {findings : Stream}
  {analyzed : Option Int} {pass : Pass}

theorem events_startPass {session : Session} (hopen : session.workspace.get? uri = some notebook)
    (analyzed : Option Int) : (session.startPass uri analyzed).events =
      (session.board.start notebook analyzed).log.map .logged := by
  rw [startPass, hopen]
  dsimp only
  split <;> simp [*]

/-- A projection for an open notebook begins unless its findings are stale or the notebook was
retired. -/
theorem isSome_begin?_iff (hopen : desk.session.workspace.get? uri = some notebook) :
    (desk.begin? uri analyzed).isSome ↔
      (∀ version, analyzed = some version → version = notebook.version) ∧
        notebook.incarnation ∉ desk.session.board.retired := by
  constructor
  · intro h
    obtain ⟨⟨pass, begun⟩, hbegin⟩ := Option.isSome_iff_exists.1 h
    obtain ⟨found, hfound, hversion, hretired, -⟩ := Desk.begin_eq_some hbegin
    obtain rfl := Option.some.inj (hopen.symm.trans hfound)
    refine ⟨hversion, fun hmem ↦ ?_⟩
    exact Bool.eq_false_iff.1 hretired (Board.hasRetired_iff.2 hmem)
  · rintro ⟨hversion, hretired⟩
    rw [Option.isSome_iff_ne_none]
    intro hnone
    exact Board.start_ne_none hversion hretired (Desk.start_of_begin_none hnone hopen)

/-- A projection whose notebook is not retired by its end gives the exact diagnostics of the
notebook as it was at the start, sends them to the editor after what its stream sent, and marks the
cells that have some. -/
theorem exact_of_made
    (hmade : (.project uri findings analyzed, desk) ∈
      Desk.made ⟨start language delimiter publishes, []⟩ requests)
    (hopen : desk.session.workspace.get? uri = some notebook)
    (hbegin : desk.begin? uri analyzed = some (pass, begun))
    (hretired : notebook.incarnation ∉
      (findings.handle pass begun).desk.session.board.retired) :
    ∃ byCell during,
      ((Request.project uri findings analyzed).handle desk).reply =
        .ok (.diagnostics byCell during) ∧
      byCell.Exact notebook findings.findings
        ((findings.handle pass begun).desk.session.board.rememberedCells uri) ∧
      sentIn ((Request.project uri findings analyzed).handle desk).events =
        sentIn (findings.handle pass begun).events ++
          (findings.handle pass begun).desk.session.sent byCell ∧
      ∀ cell, cell ∈ ((Request.project uri findings analyzed).handle
          desk).desk.session.board.markedCells uri ↔
        ∃ diagnostics ≠ [], (cell, diagnostics) ∈ byCell := by
  have hfounded := isFounded_of_made hmade
  have hlast := (hfounded.begin hbegin).through findings pass
  obtain ⟨found, hfound, hstart, -⟩ := Desk.start_of_begin hbegin
  obtain rfl := Option.some.inj (hopen.symm.trans hfound)
  have huri : notebook.uri = uri := hfounded.sound.uri_eq hopen
  obtain ⟨hexact, hmarked⟩ := Board.exact_finish (hfounded.sound.keepsIndex hopen) hstart
    findings.findings (hlast.nodup_remembered notebook.uri) hretired
  obtain ⟨before, hbefore, hhandle⟩ := handle_project_of_begin findings hbegin
  rw [huri, ← Stream.pass_handle findings pass begun] at hexact hmarked
  rw [hhandle, Desk.project_of_begin findings hbegin]
  refine ⟨_, _, rfl, hexact, ?_, hmarked⟩
  rw [sentIn_append, hbefore, Desk.sentIn_land]
  rfl

/-- A projection whose notebook is retired by its end gives and sends nothing, and the board stays
as it is after the findings. -/
theorem empty_of_made
    (hmade : (.project uri findings analyzed, desk) ∈
      Desk.made ⟨start language delimiter publishes, []⟩ requests)
    (hopen : desk.session.workspace.get? uri = some notebook)
    (hbegin : desk.begin? uri analyzed = some (pass, begun))
    (hretired : notebook.incarnation ∈
      (findings.handle pass begun).desk.session.board.retired) :
    ∃ during,
      ((Request.project uri findings analyzed).handle desk).reply =
        .ok (.diagnostics [] during) ∧
      sentIn ((Request.project uri findings analyzed).handle desk).events =
        sentIn (findings.handle pass begun).events ∧
      ((Request.project uri findings analyzed).handle desk).desk.session.board =
        (findings.handle pass begun).desk.session.board := by
  obtain ⟨found, hfound, -, -, hpass, -⟩ :=
    (isFounded_of_made hmade).sound.concerns_of_begin hbegin
  obtain rfl := Option.some.inj (hopen.symm.trans hfound)
  rw [← (findings.concerns_handle begun hpass).incarnation_eq] at hretired
  have hfinish := Board.finish_of_retired hretired
  obtain ⟨before, hbefore, hhandle⟩ := handle_project_of_begin findings hbegin
  rw [hhandle, Desk.project_of_begin findings hbegin, Desk.land_diagnostics, hfinish]
  refine ⟨_, rfl, ?_, ?_⟩
  · rw [sentIn_append, hbefore, Desk.sentIn_land, hfinish, sent_nil, List.append_nil]
  · rw [Desk.land_session, hfinish]

/-- A projection of findings alone warns once of each thing that it leaves out, in the order in
which it comes to them, and of nothing else. -/
theorem reported_of_made
    (hmade : (.project uri findings analyzed, desk) ∈
      Desk.made ⟨start language delimiter publishes, []⟩ requests)
    (hopen : desk.session.workspace.get? uri = some notebook)
    (hbegin : desk.begin? uri analyzed = some (pass, begun)) (hflat : findings.isFlat) :
    Forall₂ (Reported notebook.index)
      (findings.findings.flatMap (Finding.omissions notebook.index))
      (warnings (recordsIn ((Request.project uri findings analyzed).handle desk).events)) := by
  obtain ⟨found, hfound, hstart, -⟩ := Desk.start_of_begin hbegin
  obtain rfl := Option.some.inj (hopen.symm.trans hfound)
  have hindex := Board.index_of_start ((isFounded_of_made hmade).sound.keepsIndex hopen) hstart
  have hreported := pass.reported_readAll findings.findings
  have hlog : recordsIn ((Request.project uri findings analyzed).handle desk).events =
      (desk.session.board.start notebook analyzed).log ++
        (pass.readAll findings.findings).log ++
        (begun.session.board.finish (pass.readAll findings.findings).value).log := by
    rw [handle_project_eq findings hbegin, Desk.project_of_begin findings hbegin,
      Stream.handle_of_isFlat hflat, events_startPass hopen]
    simp only [Desk.land, finishPass, recordsIn_append, recordsIn_addressed_cons,
      recordsIn_map_logged, recordsIn_publications, List.append_nil, List.cons_append]
  rw [hlog, warnings_append, warnings_append, Board.warnings_start, Board.warnings_finish,
    List.nil_append, List.append_nil, warnings_of_reported hreported, ← hindex]
  exact hreported

/-! ## Fixes -/

/-- The content of a cell is changed in the open notebook, which is then put back. -/
theorem changeContent_of_get? {session : Session}
    (hopen : session.workspace.get? uri = some notebook) (cell : String) (edits : List Edit)
    (version : Option Int) : session.changeContent uri cell edits version =
      (notebook.changeContent cell edits version).map fun change ↦
        ⟨(change.value.1, session.put change.value.2), change.log.map .logged⟩ := by
  rw [changeContent, Workspace.fetch_eq_ok_iff.2 hopen]
  cases hchange : notebook.changeContent cell edits version <;>
    simp [hchange, bind, Except.bind, pure, Except.pure, Except.map]

/-- The content changes of a client change the notebook as its groups do, one after the other. -/
theorem applyGroups_of_changeGroups (hsound : desk.session.Sound)
    (hopen : desk.session.workspace.get? uri = some notebook) (changed : List Cell)
    (groups : List EditGroup) :
    match notebook.changeGroups (fun _ ↦ none) groups with
    | .ok fixed =>
      (∃ cells, (desk.applyGroups uri changed groups).reply = .ok (.changedCells (some cells))) ∧
        (desk.applyGroups uri changed groups).desk.session.workspace.get? uri = some fixed
    | .error error => (desk.applyGroups uri changed groups).reply = .error error := by
  induction groups generalizing desk notebook changed with
  | nil => exact ⟨⟨changed, rfl⟩, hopen⟩
  | cons group rest ih =>
    rw [Notebook.changeGroups, Desk.applyGroups, changeContent_of_get? hopen]
    cases hchange : notebook.changeContent group.cell group.edits none with
    | error error => rfl
    | ok change =>
      have hnext := Notebook.next_of_changeContent hchange
      have hafter : (desk.session.put change.value.2).Sound := hsound.put hopen hnext
      have hput := hsound.get?_put hopen hnext uri
      rw [if_pos rfl] at hput
      exact ih hafter hput (changed ++ [change.value.1])

end Session

end CellWeave
