import CellWeave.Proofs.Reached
/-!
# The board under a session

The open notebooks of a session are among those that its board works with, and whatever is done to
the session could be done to them and to the board. So what a session comes to is something that a
board can come to, and a projection of the session, with requests to the session between its
findings, is one of the board, with requests to the board between them.
-/

namespace CellWeave

namespace Board

/-! ## Requests to a board -/

theorem Desk.after_append (desk : Desk) (first second : List Request) :
    desk.after (first ++ second) = (desk.after first).after second :=
  List.foldl_append

/-- A stream that has requests before its first finding. -/
def Stream.afterRequests (rest : Stream) (requests : List Request) : Stream :=
  requests.foldr .request rest

theorem Stream.findings_afterRequests (rest : Stream) (requests : List Request) :
    (rest.afterRequests requests).findings = rest.findings := by
  induction requests with
  | nil => rfl
  | cons _ _ ih => exact ih

/-- The requests that were put in front are handled first. -/
theorem Stream.requests_afterRequests (rest : Stream) (requests : List Request) :
    (rest.afterRequests requests).requests = requests ++ rest.requests := by
  induction requests with
  | nil => rfl
  | cons request _ ih => exact congrArg (request :: ·) ih

/-- The notebooks at a desk, without the indexes that were put aside. -/
def Desk.current (desk : Desk) : List Notebook :=
  desk.notebooks.map (·.notebook)

variable {desk : Desk} {place : Nat} {notebook : Notebook}

theorem Desk.notebook?_eq (desk : Desk) (place : Nat) :
    desk.notebook? place = desk.current[place]? :=
  List.getElem?_map.symm

theorem Desk.length_current (desk : Desk) : desk.current.length = desk.notebooks.length :=
  List.length_map _

theorem Desk.current_push (desk : Desk) (own : Notebook.Desk) :
    current { desk with notebooks := desk.notebooks ++ [own] } = desk.current ++ [own.notebook] :=
  List.map_append

/-- A notebook that is put back takes its place. -/
theorem Desk.current_put (desk : Desk) (place : Nat) (notebook : Notebook) :
    (desk.put place notebook).current = desk.current.set place notebook := by
  apply List.ext_getElem?
  intro other
  simp only [Desk.put, current, List.getElem?_map, List.getElem?_modify, List.getElem?_set,
    List.length_map]
  split
  · next heq =>
    subst heq
    cases hown : desk.notebooks[place]? with
    | none => simp [List.getElem?_eq_none_iff.1 hown]
    | some own => simp [(List.getElem?_eq_some_iff.1 hown).1]
  · simp

/-- A notebook does what it is asked to at any desk. -/
theorem Desk.within_of_notebook? (hopen : desk.notebook? place = some notebook)
    (request : Notebook.Request) : ∃ held,
      (desk.within place request).state.board = desk.board ∧
        (desk.within place request).state.current = desk.current.set place
          (Notebook.Desk.handle ⟨notebook, held⟩ request).state.notebook := by
  obtain ⟨own, hown, rfl⟩ := Option.map_eq_some_iff.1 hopen
  refine ⟨own.held, ?_⟩
  rw [Desk.within, hown]
  exact ⟨rfl, List.map_set⟩

theorem Desk.call_clear (hopen : desk.notebook? place = some notebook) :
    (desk.call (.clear place)).state =
      { desk with board := (desk.board.clear notebook).value.2 } := by
  rw [Desk.call, Desk.onNotebook, hopen]

end Board

namespace Session

/-! ## Sessions over boards -/

/-- The desk has the board of the session and a place for every notebook that was opened. Where its
incarnation says is each open notebook, as it is now. -/
structure RunsOn (session : Session) (desk : Board.Desk) : Prop where
  board_eq : desk.board = session.board
  length_current : desk.current.length = session.workspace.opened
  getElem?_current {uri : String} {notebook : Notebook}
    (h : session.workspace.get? uri = some notebook) :
    desk.current[notebook.incarnation]? = some notebook

theorem runsOn_start (language : Text) (delimiter : Delimiter) (publishes : Bool) :
    (start language delimiter publishes).RunsOn .empty :=
  ⟨rfl, rfl, nofun⟩

namespace RunsOn

variable {session : Session} {desk after : Board.Desk} {uri : String}
  {notebook changed : Notebook}

theorem notebook?_eq (h : session.RunsOn desk)
    (hopen : session.workspace.get? uri = some notebook) :
    desk.notebook? notebook.incarnation = some notebook := by
  rw [desk.notebook?_eq, h.getElem?_current hopen]

/-- A notebook that was read or changed is put back in both. -/
theorem put (h : session.RunsOn desk) (hsound : session.Sound)
    (hopen : session.workspace.get? uri = some notebook) (hnext : notebook.Next changed)
    (hboard : after.board = desk.board)
    (hcurrent : after.current = desk.current.set notebook.incarnation changed) :
    (session.put changed).RunsOn after := by
  refine ⟨hboard.trans h.board_eq, ?_, ?_⟩
  · rw [hcurrent, List.length_set]
    exact h.length_current
  · intro other found hfound
    rw [hsound.get?_put hopen hnext] at hfound
    rw [hcurrent, List.getElem?_set]
    split at hfound
    · obtain rfl := Option.some.inj hfound
      have hlt : notebook.incarnation < desk.current.length :=
        (List.getElem?_eq_some_iff.1 (h.getElem?_current hopen)).1
      rw [hnext.incarnation_eq, if_pos rfl, if_pos hlt]
    · next hne =>
      have hplace : notebook.incarnation ≠ found.incarnation :=
        fun heq ↦ hne (hsound.uri_eq_of_incarnation_eq hfound hopen heq.symm)
      rw [if_neg hplace]
      exact h.getElem?_current hfound

/-- Another board can come in under the same notebooks. -/
theorem withBoard (h : session.RunsOn desk) (board : Board) :
    RunsOn { session with board } { desk with board } :=
  ⟨rfl, h.length_current, h.getElem?_current⟩

theorem clear (h : session.RunsOn desk) (hopen : session.workspace.get? uri = some notebook) :
    RunsOn { session with board := (session.board.clear notebook).value.2 }
      (desk.call (.clear notebook.incarnation)).state := by
  rw [Board.Desk.call_clear (h.notebook?_eq hopen), h.board_eq]
  exact h.withBoard _

/-- A notebook that is closed stays with the board. -/
theorem close (h : session.RunsOn desk) (hopen : session.workspace.get? uri = some notebook) :
    RunsOn { session with workspace := (session.workspace.closeNotebook uri).value.2 } desk := by
  refine ⟨h.board_eq, ?_, fun {other found} hfound ↦ ?_⟩
  · rw [Workspace.opened_closeNotebook]
    exact h.length_current
  · rw [Workspace.get?_closeNotebook hopen] at hfound
    split at hfound
    · exact absurd hfound nofun
    · exact h.getElem?_current hfound

/-- A notebook that is opened gets the next place. -/
theorem openNotebook (h : session.RunsOn desk) (hsound : session.Sound) {cells : List Cell}
    {opened : Traced (Notebook × Workspace)}
    (hopened : session.workspace.openNotebook uri cells = .ok opened) :
    RunsOn { session with workspace := opened.value.2 }
      (desk.call (.add uri session.workspace.delimiter.text (session.workspace.lastVersion uri)
        (some cells))).state := by
  obtain ⟨table, rfl, hnotebook, hworkspace⟩ := Workspace.openNotebook_eq_ok hopened
  have hget := Workspace.get?_openNotebook hopened
  have hlength : desk.notebooks.length = session.workspace.opened :=
    desk.length_current.symm.trans h.length_current
  have hadded : desk.add uri session.workspace.delimiter.text (session.workspace.lastVersion uri)
      (some table.ordered) =
        .ok { desk with notebooks := desk.notebooks ++ [⟨opened.value.1, none⟩] } := by
    rw [Board.Desk.add, Delimiter.parse_text, hnotebook, ← hlength]
    simp only [Notebook.replaceCells, CellTable.of_ordered, bind, Except.bind, pure, Except.pure]
    rfl
  rw [Board.Desk.call, hadded]
  refine ⟨h.board_eq, ?_, fun {other found} hfound ↦ ?_⟩
  · rw [Board.Desk.current_push, List.length_append, h.length_current, hworkspace]
    rfl
  · rw [hget] at hfound
    rw [Board.Desk.current_push]
    split at hfound
    · obtain rfl := Option.some.inj hfound
      rw [hnotebook, ← h.length_current]
      exact List.getElem?_concat_length
    · rw [List.getElem?_append_left (h.length_current ▸ hsound.incarnation_lt hfound)]
      exact h.getElem?_current hfound

/-- A notebook that reads its index or is changed can do so at the desk. -/
theorem next (h : session.RunsOn desk) (hsound : session.Sound)
    (hopen : session.workspace.get? uri = some notebook) (hnext : notebook.Next changed) :
    ∃ requests, (session.put changed).RunsOn (desk.after requests) := by
  have hwithin (request : Notebook.Request)
      (hrequest : ∀ held, (Notebook.Desk.handle ⟨notebook, held⟩ request).state.notebook =
        changed) : ∃ requests, (session.put changed).RunsOn (desk.after requests) := by
    obtain ⟨held, hboard, hcurrent⟩ :=
      Board.Desk.within_of_notebook? (h.notebook?_eq hopen) request
    rw [hrequest held] at hcurrent
    exact ⟨[.call (.within notebook.incarnation request)],
      h.put hsound hopen hnext hboard hcurrent⟩
  cases hnext with
  | index kept hkept =>
    rcases hkept with rfl | rfl
    · exact hwithin .uris fun _ ↦ rfl
    · exact hwithin .text fun _ ↦ (hsound.keepsIndex hopen).notebook_readIndex
  | change table =>
    have hreplaced : notebook.replaceCells table.ordered = .ok (notebook.withTable table) :=
      Notebook.replaceCells_eq_ok_iff.2 ⟨table, rfl, rfl⟩
    exact hwithin (.replaceCells table.ordered) fun _ ↦ by
      rw [Notebook.Desk.handle, hreplaced]
      rfl

theorem begin (h : session.RunsOn desk) (hsound : session.Sound)
    (hopen : session.workspace.get? uri = some notebook) :
    (session.put notebook.readIndex.value.2).RunsOn
      (desk.put notebook.incarnation notebook.readIndex.value.2) :=
  h.put hsound hopen (Notebook.next_readIndex notebook) rfl (desk.current_put _ _)

/-- Each step of a session can be made by requests to the board. -/
theorem step {origin next : Session} {call : Call} {sent : CellDiagnostics}
    (h : session.RunsOn desk) (hsound : session.Sound)
    (hstep : Step origin call session sent next) :
    ∃ requests, next.RunsOn (desk.after requests) := by
  cases hstep with
  | put hopen hnext => exact h.next hsound hopen hnext
  | @close _ _ notebook hopen _ =>
    exact ⟨[.call (.clear notebook.incarnation)], (h.clear hopen).close hopen⟩
  | @forget _ _ uri cell _ =>
    refine ⟨[.call (.clearCell uri cell)], ?_⟩
    have hforgotten := h.withBoard (session.board.clearCell uri cell).2
    rwa [← h.board_eq] at hforgotten ⊢
  | openNotebook hopened => exact ⟨[.call _], h.openNotebook hsound hopened⟩
  | clear hopen => exact ⟨[.call _], h.clear hopen⟩

/-- So can the steps of a trace, one after the other. -/
theorem trace {origin last : Session} {call : Call} {sent : CellDiagnostics}
    (h : session.RunsOn desk) (hsound : session.Sound)
    (htrace : Trace origin call session sent last) :
    ∃ requests, last.RunsOn (desk.after requests) := by
  induction htrace generalizing desk with
  | refl => exact ⟨[], h⟩
  | step hstep _ ih =>
    obtain ⟨first, hfirst⟩ := h.step hsound hstep
    obtain ⟨rest, hrest⟩ := ih hfirst (hsound.step hstep)
    exact ⟨first ++ rest, by rwa [desk.after_append]⟩

end RunsOn

/-! ## Projections on a board -/

variable {desk : Desk} {under : Board.Desk} {uri : String} {notebook : Notebook}

/-- The stream has the same findings, and between them requests to the board that leave it and its
notebooks as the session is left. -/
structure Stream.RunsOn (findings : Stream) (pass : Pass) (desk : Desk) (under : Board.Desk)
    (stream : Board.Stream) : Prop where
  findings_eq : stream.findings = findings.findings
  requests_eq (h : findings.isFlat) : stream.requests = []
  after : (findings.handle pass desk).desk.session.RunsOn (under.after stream.requests)

/-- A projection that begins is one of the board, with a stream that runs on it. -/
theorem RunsOn.project_of_begin (h : desk.session.RunsOn under)
    {findings : Stream} {analyzed : Option Int} {pass : Pass} {begun : Desk}
    (hbegin : desk.begin? uri analyzed = some (pass, begun))
    (hopen : desk.session.workspace.get? uri = some notebook) {stream : Board.Stream}
    (hstream : findings.RunsOn pass begun
      (under.put notebook.incarnation notebook.readIndex.value.2) stream) :
    ((Request.project uri findings analyzed).handle desk).desk.session.RunsOn
      ((Board.Request.project notebook.incarnation stream analyzed).handle under).state ∧
    ∃ byCell during during',
      ((Request.project uri findings analyzed).handle desk).reply =
        .ok (.diagnostics byCell during) ∧
      ((Board.Request.project notebook.incarnation stream analyzed).handle under).reply =
        .ok (.projected byCell during') := by
  obtain ⟨found, hfound, hstart, -⟩ := Desk.start_of_begin hbegin
  obtain rfl := Option.some.inj (hopen.symm.trans hfound)
  rw [← h.board_eq] at hstart
  obtain ⟨_, -, hhandle⟩ := handle_project_of_begin findings hbegin
  have hfinish : ((under.put notebook.incarnation notebook.readIndex.value.2).after
      stream.requests).board.finish (pass.readAll stream.findings).value =
        (findings.handle pass begun).desk.session.board.finish
          (findings.handle pass begun).pass := by
    rw [hstream.after.board_eq, hstream.findings_eq, Stream.pass_handle]
  rw [hhandle, Desk.project_of_begin findings hbegin,
    Board.handle_project_of_start stream (h.notebook?_eq hopen) hstart, hfinish]
  exact ⟨hstream.after.withBoard _, _, _, _, rfl, rfl⟩

mutual

/-- Whatever is asked of a session can be done to the board under it. -/
theorem Request.exists_runsOn (request : Request) {desk : Desk} {under : Board.Desk}
    (h : desk.session.RunsOn under) (hsound : desk.session.Sound) :
    ∃ requests, (request.handle desk).desk.session.RunsOn (under.after requests) := by
  match request with
  | .call call => exact h.trace hsound (Desk.trace_call desk call)
  | .project uri findings analyzed =>
    cases hbegin : desk.begin? uri analyzed with
    | none =>
      obtain ⟨_, -, hhandle⟩ := handle_project_of_none findings hbegin
      rw [hhandle]
      exact ⟨[], h⟩
    | some begun =>
      obtain ⟨pass, begun⟩ := begun
      obtain ⟨notebook, hopen, -, -, -, rfl⟩ := Desk.begin_eq_some hbegin
      obtain ⟨stream, hstream⟩ :=
        findings.exists_runsOn pass (h.begin hsound hopen) (hsound.begin hbegin)
      exact ⟨[.project notebook.incarnation stream analyzed],
        (h.project_of_begin hbegin hopen hstream).1⟩
termination_by structural request

/-- A stream is one of the board, with other requests between the findings. -/
theorem Stream.exists_runsOn (findings : Stream) (pass : Pass) {desk : Desk}
    {under : Board.Desk} (h : desk.session.RunsOn under) (hsound : desk.session.Sound) :
    ∃ stream, findings.RunsOn pass desk under stream := by
  match findings with
  | .done => exact ⟨.done, rfl, fun _ ↦ rfl, h⟩
  | .finding finding rest =>
    obtain ⟨stream, hrest⟩ := rest.exists_runsOn (pass.read finding).value h hsound
    exact ⟨.finding finding stream, congrArg (finding :: ·) hrest.findings_eq,
      hrest.requests_eq, hrest.after⟩
  | .request request rest =>
    obtain ⟨requests, hrequest⟩ := request.exists_runsOn h hsound
    obtain ⟨stream, hrest⟩ := rest.exists_runsOn pass hrequest (hsound.handle request)
    refine ⟨stream.afterRequests requests, ?_, nofun, ?_⟩
    · rw [Board.Stream.findings_afterRequests]
      exact hrest.findings_eq
    · rw [Board.Stream.requests_afterRequests, under.after_append]
      exact hrest.after
termination_by structural findings

end

/-! ## Projections in a run -/

/-- A sound session over a desk that a board comes to from nothing. -/
structure IsFounded (session : Session) : Prop where
  sound : session.Sound
  exists_after : ∃ requests, session.RunsOn (Board.Desk.empty.after requests)

theorem isFounded_start (language : Text) (delimiter : Delimiter) (publishes : Bool) :
    (start language delimiter publishes).IsFounded :=
  ⟨sound_start language delimiter publishes, [], runsOn_start _ _ _⟩

namespace IsFounded

theorem of_runsOn {session : Session} {before : List Board.Request} (hsound : session.Sound)
    (h : ∃ requests, session.RunsOn ((Board.Desk.empty.after before).after requests)) :
    session.IsFounded := by
  obtain ⟨requests, h⟩ := h
  exact ⟨hsound, before ++ requests, by rwa [Board.Desk.after_append]⟩

theorem begin (h : desk.session.IsFounded) {analyzed : Option Int} {pass : Pass} {begun : Desk}
    (hbegin : desk.begin? uri analyzed = some (pass, begun)) : begun.session.IsFounded := by
  obtain ⟨hsound, before, hunder⟩ := h
  obtain ⟨notebook, hopen, -, rfl⟩ := Desk.start_of_begin hbegin
  exact .of_runsOn (hsound.begin hbegin)
    (hunder.next hsound hopen (Notebook.next_readIndex notebook))

theorem handle (h : desk.session.IsFounded) (request : Request) :
    (request.handle desk).desk.session.IsFounded := by
  obtain ⟨hsound, before, hunder⟩ := h
  exact .of_runsOn (hsound.handle request) (request.exists_runsOn hunder hsound)

theorem keeps (G : Request × Desk → Prop) :
    Course.Keeps G fun course ↦ course.desk.session.IsFounded where
  call _ call _ h := h.handle (.call call)
  pass_over _ _ _ _ _ h := h
  begin _ _ _ _ _ _ hbegin _ h := h.begin hbegin
  land course uri findings analyzed _ _ hbegin _ h _ := by
    rw [← Course.after_project_of_begin hbegin]
    exact h.handle (.project uri findings analyzed)

theorem through (h : desk.session.IsFounded) (findings : Stream) (pass : Pass) :
    (findings.handle pass desk).desk.session.IsFounded :=
  (keeps fun _ ↦ True).through ⟨desk, [], []⟩ findings pass (fun _ _ ↦ trivial) h

/-- Under each uri the remembered cells are distinct, as they are on every board. -/
theorem nodup_remembered {session : Session} (h : session.IsFounded) (uri : String) :
    (session.board.rememberedCells uri).Nodup := by
  obtain ⟨-, before, hunder⟩ := h
  rw [← hunder.board_eq]
  exact (Board.Desk.Reached.empty.after before).wellKept.nodup_remembered uri

end IsFounded

variable {language : Text} {delimiter : Delimiter} {publishes : Bool} {requests : List Request}

/-- Every session that a request of a run finds is over a board. -/
theorem isFounded_of_made {item : Request × Desk}
    (hmade : item ∈ Desk.made ⟨start language delimiter publishes, []⟩ requests) :
    item.2.session.IsFounded :=
  Course.Keeps.found_of_run (fun desk ↦ desk.session.IsFounded) (IsFounded.keeps fun _ ↦ True)
    (fun _ _ ↦ trivial) (isFounded_start language delimiter publishes) item hmade

/-- A projection for an open notebook gives and leaves what one of the board does, after some other
requests to the board. The findings are the same, and requests come between them only if some do in
the session. -/
theorem exists_projected_of_made {findings : Stream} {analyzed : Option Int}
    (hmade : (.project uri findings analyzed, desk) ∈
      Desk.made ⟨start language delimiter publishes, []⟩ requests)
    (hopen : desk.session.workspace.get? uri = some notebook) :
    ∃ (before : List Board.Request) (stream : Board.Stream),
      desk.session.RunsOn (Board.Desk.empty.after before) ∧
      stream.findings = findings.findings ∧ (findings.isFlat → stream.requests = []) ∧
      ((Request.project uri findings analyzed).handle desk).desk.session.RunsOn
        ((Board.Request.project notebook.incarnation stream analyzed).handle
          (Board.Desk.empty.after before)).state ∧
      ∃ byCell during during',
        ((Request.project uri findings analyzed).handle desk).reply =
          .ok (.diagnostics byCell during) ∧
        ((Board.Request.project notebook.incarnation stream analyzed).handle
          (Board.Desk.empty.after before)).reply = .ok (.projected byCell during') := by
  obtain ⟨hsound, before, hunder⟩ := isFounded_of_made hmade
  cases hbegin : desk.begin? uri analyzed with
  | none =>
    obtain ⟨stream, hstream⟩ :=
      findings.exists_runsOn ⟨uri, 0, notebook.index, [], 0, 0⟩ hunder hsound
    refine ⟨before, stream, hunder, hstream.findings_eq, hstream.requests_eq, ?_⟩
    obtain ⟨_, -, hhandle⟩ := handle_project_of_none findings hbegin
    have hstart : ((Board.Desk.empty.after before).board.start notebook analyzed).value = none := by
      rw [hunder.board_eq, Desk.start_of_begin_none hbegin hopen]
    rw [hhandle, Board.handle_project_of_start_none stream (hunder.notebook?_eq hopen) hstart]
    exact ⟨hunder, _, _, _, rfl, rfl⟩
  | some begun =>
    obtain ⟨pass, begun⟩ := begun
    obtain ⟨found, hfound, -, rfl⟩ := Desk.start_of_begin hbegin
    obtain rfl := Option.some.inj (hopen.symm.trans hfound)
    obtain ⟨stream, hstream⟩ :=
      findings.exists_runsOn pass (hunder.begin hsound hopen) (hsound.begin hbegin)
    exact ⟨before, stream, hunder, hstream.findings_eq, hstream.requests_eq,
      hunder.project_of_begin hbegin hopen hstream⟩

end Session

end CellWeave
