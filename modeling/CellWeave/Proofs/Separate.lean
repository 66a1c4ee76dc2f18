import CellWeave.Proofs.Counterparts
/-!
# Separate notebooks

A session keeps all notebooks in the same tables, under their uris. A request under one uri depends
on what was asked under that uri before, and on nothing else: without the other requests it would
have had the same answer and sent the same to the editor. It is of no account that notebooks may
have cells of one uri.
-/

namespace CellWeave

namespace Session

/-- The reply without the incarnation of the notebook in it. -/
def Reply.anonymous : Reply → Reply
  | .notebook own => .notebook (own.renumber 0)
  | reply => reply

/-- The reply or the error of an answer, and the events. -/
def Answer.outcome (answer : Answer) : Except SyncError Reply × List Event :=
  (answer.reply.map Reply.anonymous, answer.events)

namespace Desk

section Seen

variable {first second : Desk} {uri : String}

/-- Two answers have one outcome, and leave the same to be seen under a uri. -/
structure SameUnder (uri : String) (first second : Answer) : Prop where
  outcome_eq : first.outcome = second.outcome
  view_eq : first.desk.view uri = second.desk.view uri

theorem sameUnder_finish {α : Type} {reply : α → Reply} {strip : α → α}
    (hheld : first.held.get? uri = second.held.get? uri)
    {done done' : Witnessed (α × Session)} (h : seen uri strip done = seen uri strip done')
    (hreply : ∀ value, (reply value).anonymous = reply (strip value)) :
    SameUnder uri (first.finish reply done) (second.finish reply done') := by
  simp only [seen, Prod.mk.injEq] at h
  obtain ⟨hvalue, hview, hevents⟩ := h
  constructor
  · simp only [Answer.outcome, finish, Except.map, hreply, hvalue, hevents]
  · simp only [Desk.view, finish, hview, hheld]

theorem sameUnder_tell (hview : first.view uri = second.view uri) (reply : Except SyncError Reply) :
    SameUnder uri (first.tell reply) (second.tell reply) :=
  ⟨rfl, hview⟩

theorem sameUnder_attempt {α : Type} {reply : α → Reply} {strip : α → α}
    (hview : first.view uri = second.view uri)
    {result result' : Except SyncError (Witnessed (α × Session))}
    (h : result.map (seen uri strip) = result'.map (seen uri strip))
    (hreply : ∀ value, (reply value).anonymous = reply (strip value)) :
    SameUnder uri (first.attempt reply result) (second.attempt reply result') := by
  rcases error_or_ok h with ⟨error, rfl, rfl⟩ | ⟨done, done', rfl, rfl, hdone⟩
  · exact sameUnder_tell hview (.error error)
  · exact sameUnder_finish (congrArg Prod.snd hview) hdone hreply

/-- Events come before those of an answer. -/
theorem SameUnder.after {answer answer' : Answer} (h : SameUnder uri answer answer')
    (events : List Event) :
    SameUnder uri { answer with events := events ++ answer.events }
      { answer' with events := events ++ answer'.events } := by
  have houtcome := h.outcome_eq
  simp only [Answer.outcome, Prod.mk.injEq] at houtcome
  constructor
  · simp only [Answer.outcome, houtcome.1, houtcome.2]
  · exact h.view_eq

theorem sameUnder_applyGroups (h : first.session.Sound) (hview : first.view uri = second.view uri)
    (changed : List Cell) (groups : List EditGroup) :
    SameUnder uri (first.applyGroups uri changed groups)
      (second.applyGroups uri changed groups) := by
  induction groups generalizing first second changed with
  | nil => exact sameUnder_tell hview _
  | cons group rest ih =>
    have hchange := seen_changeContent h (congrArg Prod.fst hview) group.cell group.edits none
    rcases error_or_ok hchange with ⟨error, hfirst, hsecond⟩ | ⟨done, done', hfirst, hsecond, hdone⟩
    · simp only [applyGroups, hfirst, hsecond]
      exact sameUnder_tell hview (.error error)
    · have htrace : Trace first.session (.document uri) first.session _ done.value.2 :=
        trace_changeContent hfirst
      have hheld : first.held.get? uri = second.held.get? uri := congrArg Prod.snd hview
      simp only [seen, id, Prod.mk.injEq] at hdone
      obtain ⟨hcell, hafter, hevents⟩ := hdone
      have hfound : Desk.view { first with session := done.value.2 } uri =
          Desk.view { second with session := done'.value.2 } uri :=
        Prod.ext hafter hheld
      simp only [applyGroups, hfirst, hsecond, hcell, hevents]
      apply SameUnder.after
      refine ih ?_ hfound _
      exact h.trace htrace

/-- A fix comes to the same in sessions that look alike under its uri. -/
theorem sameUnder_applyFix (h : first.session.Sound) (hview : first.view uri = second.view uri)
    (fix : Fix) : SameUnder uri (first.applyFix uri fix) (second.applyFix uri fix) := by
  have hheld : first.held.get? uri = second.held.get? uri := congrArg Prod.snd hview
  have hproject := seen_projectFix h (congrArg Prod.fst hview) fix
  rcases error_or_ok hproject with ⟨error, hfirst, hsecond⟩ | ⟨done, done', hfirst, hsecond, hdone⟩
  · simp only [applyFix, hfirst, hsecond]
    exact sameUnder_tell hview (.error error)
  · have htrace : Trace first.session (.applyFix uri fix) first.session _ done.value.2 :=
      trace_projectFix hfirst
    simp only [seen, id, Prod.mk.injEq] at hdone
    obtain ⟨⟨projected, session⟩, events⟩ := done
    obtain ⟨⟨projected', session'⟩, events'⟩ := done'
    obtain ⟨rfl, hafter, rfl⟩ := hdone
    have hfound : Desk.view { first with session } uri =
        Desk.view { second with session := session' } uri :=
      Prod.ext hafter hheld
    cases projected with
    | none =>
      simp only [applyFix, hfirst, hsecond]
      exact ⟨rfl, hfound⟩
    | some projected =>
      simp only [applyFix, hfirst, hsecond]
      exact (sameUnder_applyGroups (h.trace htrace) hfound [] projected.groups).after _

theorem sameUnder_within (h : first.session.Sound) (hview : first.view uri = second.view uri)
    (request : Notebook.Request) :
    SameUnder uri (first.within uri request) (second.within uri request) := by
  have hheld : first.held.get? uri = second.held.get? uri := congrArg Prod.snd hview
  rcases none_or_counterparts h (congrArg Prod.fst hview) with
    ⟨hfirst, hsecond⟩ | ⟨notebook, incarnation, hpair⟩
  · simp only [within, Workspace.fetch, hfirst, hsecond]
    exact sameUnder_tell hview _
  · let desk : Notebook.Desk := ⟨notebook, first.held.get? uri⟩
    have hrenumber := desk.handle_renumber incarnation request
    have hput := (hpair.put (Notebook.next_handle desk request)).view_eq
    have hkeep (held : Option DocumentIndex) :
        (first.held.keep uri held).get? uri = (second.held.keep uri held).get? uri := by
      cases held with
      | none => exact hheld
      | some index =>
        rw [Table.keep, Table.keep, Table.get?_set, Table.get?_set, if_pos rfl, if_pos rfl]
    have hsecond : Notebook.Desk.handle ⟨notebook.renumber incarnation, second.held.get? uri⟩
        request = ⟨(desk.handle request).reply, (desk.handle request).state.renumber incarnation,
          (desk.handle request).log⟩ := by
      rw [← hheld]
      exact hrenumber
    simp only [within, Workspace.fetch, hpair.open_first, hpair.open_second, hsecond]
    exact ⟨rfl, Prod.ext hput (hkeep _)⟩

/-- A call has one outcome in sessions that look the same from its uri. -/
theorem sameUnder_call (h : first.session.Sound) (hsecond : second.session.Sound)
    (hview : first.view uri = second.view uri) {call : Call} (huri : call.uri? = some uri) :
    SameUnder uri (first.call call) (second.call call) := by
  have hsession : first.session.view uri = second.session.view uri := congrArg Prod.fst hview
  have hheld : first.held.get? uri = second.held.get? uri := congrArg Prod.snd hview
  cases call with
  | openNotebook uri cells =>
    obtain rfl := Option.some.inj huri
    exact sameUnder_attempt hview (seen_openNotebook h hsecond hsession cells) fun _ ↦ rfl
  | closeNotebook uri =>
    obtain rfl := Option.some.inj huri
    have hreply (byCell : CellDiagnostics) :
        Reply.anonymous (.diagnostics byCell []) = .diagnostics byCell [] :=
      rfl
    exact sameUnder_finish hheld (seen_closeNotebook h hsession) hreply
  | changeStructure uri opened closed =>
    obtain rfl := Option.some.inj huri
    exact sameUnder_attempt hview (seen_changeStructure h hsession opened closed) fun _ ↦ rfl
  | changeContent uri cell edits version =>
    obtain rfl := Option.some.inj huri
    exact sameUnder_attempt hview (seen_changeContent h hsession cell edits version) fun _ ↦ rfl
  | document uri =>
    obtain rfl := Option.some.inj huri
    exact sameUnder_attempt hview (seen_document h hsession) fun _ ↦ rfl
  | projectFix uri fix =>
    obtain rfl := Option.some.inj huri
    exact sameUnder_attempt hview (seen_projectFix h hsession fix) fun _ ↦ rfl
  | applyFix uri fix =>
    obtain rfl := Option.some.inj huri
    exact sameUnder_applyFix h hview fix
  | owner uri line =>
    obtain rfl := Option.some.inj huri
    exact sameUnder_finish hheld (seen_owner h hsession line) fun _ ↦ rfl
  | knowsCell | notebookOfCell => simp [Call.uri?] at huri
  | clear uri =>
    obtain rfl := Option.some.inj huri
    exact sameUnder_attempt hview (seen_clear h hsession) fun _ ↦ rfl
  | within uri request =>
    obtain rfl := Option.some.inj huri
    exact sameUnder_within h hview request

/-- A projection without requests comes to the same in sessions that look alike under its uri. -/
theorem sameUnder_project (h : first.session.Sound) (hview : first.view uri = second.view uri)
    {findings : Stream} (hflat : findings.isFlat) (analyzed : Option Int) :
    SameUnder uri ((Request.project uri findings analyzed).handle first)
      ((Request.project uri findings analyzed).handle second) := by
  have hheld : first.held.get? uri = second.held.get? uri := congrArg Prod.snd hview
  rcases none_or_startsAlike h (congrArg Prod.fst hview) analyzed with
    ⟨events, hfirst, hsecond⟩ |
      ⟨notebook, incarnation, pass, begun, begun', events, hstart⟩
  · simp only [Request.handle, hfirst, hsecond]
    exact ⟨rfl, hview⟩
  · obtain ⟨hnotebook, hincarnation, -⟩ := pass.readAll_keeps findings.findings
    have hretired := hstart.counterparts.hasRetired_eq
    rw [← hstart.incarnation_eq, ← hincarnation] at hretired
    have hfinish := seen_finishPass hstart.counterparts.view_eq
      (hnotebook.trans hstart.notebook_eq) hretired
    simp only [seen, id, Prod.mk.injEq] at hfinish
    obtain ⟨hbyCell, hafter, hfinished⟩ := hfinish
    simp only [Request.handle, hstart.start_first, hstart.start_second,
      Stream.handle_of_isFlat hflat, Pass.readAll_renumber]
    constructor
    · simp only [Answer.outcome, hbyCell, hfinished]
    · exact Prod.ext hafter hheld

/-- A request has one outcome at desks that look the same from its uri. -/
theorem sameUnder_handle (h : first.session.Sound) (hsecond : second.session.Sound)
    (hview : first.view uri = second.view uri) {request : Request} (hflat : request.isFlat)
    (huri : request.uri? = some uri) :
    SameUnder uri (request.handle first) (request.handle second) := by
  cases request with
  | call call => exact (sameUnder_call h hsecond hview huri).after _
  | project uri findings analyzed =>
    obtain rfl := Option.some.inj huri
    exact sameUnder_project h hview hflat analyzed

end Seen

/-! ## Runs -/

/-- The desk after a list of requests. -/
def after (desk : Desk) (requests : List Request) : Desk :=
  requests.foldl (fun desk request ↦ (request.handle desk).desk) desk

/-- The outcomes of the requests in a run that name the uri. -/
def outcomesUnder (desk : Desk) (uri : String) (requests : List Request) :
    List (Except SyncError Reply × List Event) :=
  ((requests.zip (desk.run requests)).filter (·.1.uri? = some uri)).map (·.2.outcome)

variable {desk : Desk}

theorem outcomesUnder_cons (desk : Desk) (uri : String) (request : Request)
    (rest : List Request) :
    desk.outcomesUnder uri (request :: rest) =
      (if request.uri? = some uri then [(request.handle desk).outcome] else []) ++
        (request.handle desk).desk.outcomesUnder uri rest := by
  rw [outcomesUnder, run, List.zip_cons_cons, List.filter_cons, outcomesUnder]
  split
  · next huri => simp_all
  · next huri => simp_all

/-- Requests under other uris can be left out. -/
theorem outcomesUnder_filter {first second : Desk} {uri : String} (h : first.session.Sound)
    (hsecond : second.session.Sound) (hview : first.view uri = second.view uri)
    {requests : List Request} (hflat : ∀ request ∈ requests, request.isFlat) :
    first.outcomesUnder uri requests =
        second.outcomesUnder uri (requests.filter (·.uri? = some uri)) ∧
      (first.after requests).view uri =
        (second.after (requests.filter (·.uri? = some uri))).view uri := by
  induction requests generalizing first second with
  | nil => exact ⟨rfl, hview⟩
  | cons request rest ih =>
    obtain ⟨hrequest, hrest⟩ := List.forall_mem_cons.1 hflat
    have hfirst' := h.handle request
    rw [outcomesUnder_cons]
    by_cases huri : request.uri? = some uri
    · have hsame := sameUnder_handle h hsecond hview hrequest huri
      obtain ⟨houtcomes, hafter⟩ := ih hfirst' (hsecond.handle request) hsame.view_eq hrest
      have hkept : (request :: rest).filter (·.uri? = some uri) =
          request :: rest.filter (·.uri? = some uri) :=
        List.filter_cons_of_pos (decide_eq_true huri)
      rw [hkept, outcomesUnder_cons, if_pos huri, if_pos huri, hsame.outcome_eq, houtcomes]
      exact ⟨rfl, hafter⟩
    · have hother := Request.view_handle h hrequest huri
      have hleft : (request :: rest).filter (·.uri? = some uri) =
          rest.filter (·.uri? = some uri) :=
        List.filter_cons_of_neg (by simpa using huri)
      rw [hleft, if_neg huri]
      exact ih hfirst' hsecond (hother.trans hview) hrest

/-- What a run comes to under a uri depends on the requests under that uri alone. -/
theorem outcomesUnder_eq (h : desk.session.Sound) {uri : String} {requests others : List Request}
    (hflat : ∀ request ∈ requests, request.isFlat) (hothers : ∀ request ∈ others, request.isFlat)
    (hsame : requests.filter (·.uri? = some uri) = others.filter (·.uri? = some uri)) :
    desk.outcomesUnder uri requests = desk.outcomesUnder uri others ∧
      (desk.after requests).view uri = (desk.after others).view uri := by
  obtain ⟨houtcomes, hafter⟩ := outcomesUnder_filter h h rfl hflat
  obtain ⟨houtcomes', hafter'⟩ := outcomesUnder_filter h h rfl hothers
  rw [houtcomes, hafter, hsame]
  exact ⟨houtcomes'.symm, hafter'.symm⟩

/-- The notebook that is open under a uri, its incarnation left out, the last version there, and the
cells that are marked. -/
def status (desk : Desk) (uri : String) : Option Notebook × Int × List String :=
  ((desk.session.workspace.get? uri).map (·.renumber 0), desk.session.workspace.lastVersion uri,
    desk.session.board.markedCells uri)

theorem status_of_view_eq {first second : Desk} {uri : String}
    (h : first.view uri = second.view uri) : first.status uri = second.status uri := by
  have hview : first.session.view uri = second.session.view uri := congrArg Prod.fst h
  have hremembered : first.session.board.remembered.get? uri =
      second.session.board.remembered.get? uri :=
    congrArg View.remembered hview
  have hnotebook := congrArg View.notebook hview
  simp only [Session.view] at hnotebook
  rw [status, status, lastVersion_eq hview, Board.markedCells, Board.rememberedCells, hremembered,
    hnotebook, Board.markedCells, Board.rememberedCells]

end Desk

/-- In a run of requests without requests in their streams, what there is under a uri, in every
answer and at the end, is what there would be without the requests under other uris. So neighbours
under different uris can change places. -/
theorem outcomes_separate (language : Text) (delimiter : Delimiter) (publishes : Bool)
    {requests : List Request} (hflat : ∀ request ∈ requests, request.isFlat) :
    let desk : Desk := ⟨start language delimiter publishes, []⟩
    (∀ uri, let alone := requests.filter fun request ↦ request.uri?.all (· = uri)
      desk.outcomesUnder uri requests = desk.outcomesUnder uri alone ∧
        (desk.after requests).status uri = (desk.after alone).status uri) ∧
      ∀ before first second later, requests = before ++ first :: second :: later →
        first.uri? ≠ second.uri? → ∀ uri, let swapped := before ++ second :: first :: later
          desk.outcomesUnder uri requests = desk.outcomesUnder uri swapped ∧
            (desk.after requests).status uri = (desk.after swapped).status uri := by
  intro desk
  have hsound : desk.session.Sound := sound_start language delimiter publishes
  constructor
  · intro uri alone
    have halone : ∀ request ∈ alone, request.isFlat := fun request hrequest ↦
      hflat request (List.mem_of_mem_filter hrequest)
    have hsame : requests.filter (·.uri? = some uri) = alone.filter (·.uri? = some uri) := by
      rw [List.filter_filter]
      apply List.filter_congr
      intro request _
      cases huri : request.uri? <;> simp
    obtain ⟨houtcomes, hafter⟩ := Desk.outcomesUnder_eq hsound hflat halone hsame
    exact ⟨houtcomes, Desk.status_of_view_eq hafter⟩
  · rintro before first second later rfl hne uri swapped
    have hperm : (before ++ first :: second :: later).Perm swapped :=
      (List.Perm.swap second first later).append_left before
    have hswapped : ∀ request ∈ swapped, request.isFlat := fun request hrequest ↦
      hflat request (hperm.mem_iff.2 hrequest)
    have hsame : (before ++ first :: second :: later).filter (·.uri? = some uri) =
        swapped.filter (·.uri? = some uri) := by
      rw [List.filter_append, List.filter_append]
      by_cases hfirst : first.uri? = some uri
      · have hsecond : second.uri? ≠ some uri := fun heq ↦ hne (hfirst.trans heq.symm)
        simp [hfirst, hsecond]
      · simp [List.filter_cons, hfirst]
    obtain ⟨houtcomes, hafter⟩ := Desk.outcomesUnder_eq hsound hflat hswapped hsame
    exact ⟨houtcomes, Desk.status_of_view_eq hafter⟩

/-- Two notebooks with a cell of one uri, findings in each, and the cell taken from the first. -/
def cellInBoth : List Request :=
  [.call (.openNotebook "u" [⟨"c", ['a', feed], 0⟩]),
    .call (.openNotebook "v" [⟨"c", ['b', feed], 0⟩]),
    .project "u" (.finding ⟨"r", "m", some (.of 1 0 1 1), none, [], []⟩ .done) none,
    .project "v" (.finding ⟨"r", "n", some (.of 1 0 1 1), none, [], []⟩ .done) none,
    .call (.changeStructure "u" [] ["c"])]

/-- The cell of the second notebook stays marked, as it does with the findings read the other way
round. -/
theorem outcomes_cellInBoth :
    let desk : Desk := .blank
    (∀ request ∈ cellInBoth, request.isFlat) ∧
      (desk.after cellInBoth).status "v" =
        (desk.after (cellInBoth.filter fun request ↦ request.uri?.all (· = "v"))).status "v" ∧
      (desk.after cellInBoth).status "v" =
        (desk.after [cellInBoth[0], cellInBoth[1], cellInBoth[3], cellInBoth[2],
          cellInBoth[4]]).status "v" ∧
      ((desk.after cellInBoth).status "v").2.2 = ["c"] := by
  intro desk
  have hflat : ∀ request ∈ cellInBoth, request.isFlat := by
    simp [cellInBoth, Request.isFlat, Stream.isFlat]
  obtain ⟨halone, hswapped⟩ := outcomes_separate Notebook.standardLanguage .default true hflat
  have hswapped := hswapped [cellInBoth[0], cellInBoth[1]] cellInBoth[2] cellInBoth[3]
    [cellInBoth[4]] rfl (by decide) "v"
  exact ⟨hflat, (halone "v").2, hswapped.2, by decide +kernel⟩

end Session

end CellWeave
