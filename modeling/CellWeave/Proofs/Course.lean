import CellWeave.Proofs.Step
/-!
# The course of a run

Requests in a stream of findings are handled while the projection is under way. A course lists every
request that was handled so far, at whatever depth, with the desk it found. What calls keep, and the
beginnings and ends of projections keep, every request keeps, since a projection is a beginning,
requests, and an end.
-/

namespace CellWeave

namespace Notebook

@[simp] theorem uri_readIndex (notebook : Notebook) :
    notebook.readIndex.value.2.uri = notebook.uri := by
  unfold readIndex
  split <;> rfl

@[simp] theorem incarnation_readIndex (notebook : Notebook) :
    notebook.readIndex.value.2.incarnation = notebook.incarnation := by
  unfold readIndex
  split <;> rfl

end Notebook

/-- A pass begins with the index of an open notebook that was not retired, if the findings are not
for another version. -/
theorem Board.start_eq_some {board : Board} {notebook kept : Notebook} {analyzed : Option Int}
    {pass : Pass} (h : (board.start notebook analyzed).value = some (pass, kept)) :
    (∀ version, analyzed = some version → version = notebook.version) ∧
      board.hasRetired notebook.incarnation = false ∧
      pass = ⟨notebook.uri, notebook.incarnation, notebook.readIndex.value.1,
        .blank notebook.readIndex.value.1.uris, 0, 0⟩ ∧
      kept = notebook.readIndex.value.2 := by
  unfold start at h
  split at h
  · simp at h
  · next hversion =>
    by_cases hretired : board.hasRetired notebook.incarnation
    · simp [hretired] at h
    · rw [if_neg hretired] at h
      obtain ⟨rfl, rfl⟩ := Prod.mk.inj (Option.some.inj h)
      refine ⟨?_, Bool.eq_false_iff.2 hretired, ?_, rfl⟩
      · rintro version rfl
        simpa using hversion
      · rw [Notebook.uri_readIndex, Notebook.incarnation_readIndex]

namespace Session

/-- A pass that is started is the one of the board for the open notebook. -/
theorem startPass_eq_some {session begun : Session} {uri : String} {analyzed : Option Int}
    {pass : Pass} (h : (session.startPass uri analyzed).value = some (pass, begun)) :
    ∃ notebook kept, session.workspace.get? uri = some notebook ∧
      (session.board.start notebook analyzed).value = some (pass, kept) ∧
      begun = session.put kept := by
  unfold startPass at h
  split at h
  · simp at h
  · next notebook hopen =>
    split at h
    · simp at h
    · next started kept log hstart =>
      obtain ⟨rfl, rfl⟩ := Prod.mk.inj (Option.some.inj h)
      exact ⟨notebook, kept, hopen, by rw [hstart], rfl⟩

@[simp] theorem sentIn_startPass (session : Session) (uri : String) (analyzed : Option Int) :
    sentIn (session.startPass uri analyzed).events = [] := by
  unfold startPass
  split
  · rfl
  · split <;> exact sentIn_map_logged _

/-! ## Projections by their parts -/

namespace Desk

/-- The pass of a projection and the desk at which its findings are read, if it begins. -/
def begin? (desk : Desk) (uri : String) (analyzed : Option Int) : Option (Pass × Desk) :=
  (desk.session.startPass uri analyzed).value.map fun (pass, session) ↦
    (pass, { desk with session })

/-- What a projection gives and sends at its end, with the desk it leaves. -/
def land (desk : Desk) (pass : Pass) : Witnessed (CellDiagnostics × Desk) :=
  let done := desk.session.finishPass pass
  ⟨(done.value.1, { desk with session := done.value.2 }), done.events⟩

/-- What a projection gives and sends itself, its stream left out, with the desk it leaves. -/
def project (desk : Desk) (uri : String) (findings : Stream) (analyzed : Option Int) :
    Witnessed (CellDiagnostics × Desk) :=
  match desk.begin? uri analyzed with
  | none => ⟨([], desk), []⟩
  | some (pass, begun) => (findings.handle pass begun).desk.land (findings.handle pass begun).pass

variable {desk begun : Desk} {uri : String} {analyzed : Option Int} {pass : Pass}

theorem land_diagnostics (desk : Desk) (pass : Pass) :
    (desk.land pass).value.1 = (desk.session.board.finish pass).value.1 :=
  rfl

/-- The end of a projection changes nothing but the board. -/
theorem land_session (desk : Desk) (pass : Pass) : (desk.land pass).value.2.session =
    { desk.session with board := (desk.session.board.finish pass).value.2 } :=
  rfl

@[simp] theorem sentIn_land (desk : Desk) (pass : Pass) :
    sentIn (desk.land pass).events =
      desk.session.sent (desk.session.board.finish pass).value.1 := by
  simp [land, finishPass]

/-- A projection that begins starts a pass for the open notebook. -/
theorem start_of_begin (h : desk.begin? uri analyzed = some (pass, begun)) :
    ∃ notebook, desk.session.workspace.get? uri = some notebook ∧
      (desk.session.board.start notebook analyzed).value =
        some (pass, notebook.readIndex.value.2) ∧
      begun = { desk with session := desk.session.put notebook.readIndex.value.2 } := by
  obtain ⟨⟨started, session⟩, hstart, hbegun⟩ := Option.map_eq_some_iff.1 h
  obtain ⟨rfl, rfl⟩ := Prod.mk.inj hbegun
  obtain ⟨notebook, kept, hopen, hpass, rfl⟩ := startPass_eq_some hstart
  obtain ⟨-, -, -, rfl⟩ := Board.start_eq_some hpass
  exact ⟨notebook, hopen, hpass, rfl⟩

/-- A projection for an open notebook begins unless the board starts no pass. -/
theorem start_of_begin_none {notebook : Notebook} (h : desk.begin? uri analyzed = none)
    (hopen : desk.session.workspace.get? uri = some notebook) :
    (desk.session.board.start notebook analyzed).value = none := by
  have hstart : (desk.session.startPass uri analyzed).value = none := Option.map_eq_none_iff.1 h
  rw [startPass, hopen] at hstart
  dsimp only at hstart
  split at hstart
  · next hnone => rw [hnone]
  · exact absurd hstart nofun

/-- A projection begins with the index of an open notebook that was not retired. -/
theorem begin_eq_some (h : desk.begin? uri analyzed = some (pass, begun)) :
    ∃ notebook, desk.session.workspace.get? uri = some notebook ∧
      (∀ version, analyzed = some version → version = notebook.version) ∧
      desk.session.board.hasRetired notebook.incarnation = false ∧
      pass = ⟨notebook.uri, notebook.incarnation, notebook.readIndex.value.1,
        .blank notebook.readIndex.value.1.uris, 0, 0⟩ ∧
      begun = { desk with session := desk.session.put notebook.readIndex.value.2 } := by
  obtain ⟨notebook, hopen, hpass, hbegun⟩ := start_of_begin h
  obtain ⟨hversion, hretired, hpass, -⟩ := Board.start_eq_some hpass
  exact ⟨notebook, hopen, hversion, hretired, hpass, hbegun⟩

theorem project_of_none (findings : Stream) (h : desk.begin? uri analyzed = none) :
    desk.project uri findings analyzed = ⟨([], desk), []⟩ := by
  rw [project, h]

theorem project_of_begin (findings : Stream) (h : desk.begin? uri analyzed = some (pass, begun)) :
    desk.project uri findings analyzed =
      (findings.handle pass begun).desk.land (findings.handle pass begun).pass := by
  rw [project, h]

end Desk

/-- A projection that does not begin gives and sends nothing and does nothing. -/
theorem handle_project_of_none {desk : Desk} {uri : String} {analyzed : Option Int}
    (findings : Stream) (h : desk.begin? uri analyzed = none) :
    ∃ before, sentIn before = [] ∧ (Request.project uri findings analyzed).handle desk =
      ⟨.ok (.diagnostics [] []), desk, before⟩ := by
  have hstart : (desk.session.startPass uri analyzed).value = none := Option.map_eq_none_iff.1 h
  refine ⟨.addressed uri :: (desk.session.startPass uri analyzed).events, ?_, ?_⟩
  · rw [sentIn_addressed_cons, sentIn_startPass]
  · rw [Request.handle]
    split
    · next hnone => rw [hnone]
    · next hsome => simp [hsome] at hstart

/-- The events of a projection: those of its beginning, of its stream and of its end. -/
theorem handle_project_eq {desk begun : Desk} {uri : String} {analyzed : Option Int} {pass : Pass}
    (findings : Stream) (h : desk.begin? uri analyzed = some (pass, begun)) :
    (Request.project uri findings analyzed).handle desk =
      ⟨.ok (.diagnostics (desk.project uri findings analyzed).value.1
          (findings.handle pass begun).during),
        (desk.project uri findings analyzed).value.2,
        .addressed uri :: (desk.session.startPass uri analyzed).events ++
          (findings.handle pass begun).events ++ (desk.project uri findings analyzed).events⟩ := by
  obtain ⟨⟨started, session⟩, hstart, hbegun⟩ := Option.map_eq_some_iff.1 h
  obtain ⟨rfl, rfl⟩ := Prod.mk.inj hbegun
  rw [Desk.project_of_begin findings h, Request.handle]
  split
  · next hnone => simp [hnone] at hstart
  · next pass' session' events hsome =>
    simp only [hsome, Option.some.injEq, Prod.mk.injEq] at hstart
    obtain ⟨rfl, rfl⟩ := hstart
    simp [Desk.land, hsome]

/-- What a projection sends itself comes after what its stream sends. -/
theorem handle_project_of_begin {desk begun : Desk} {uri : String} {analyzed : Option Int}
    {pass : Pass} (findings : Stream) (h : desk.begin? uri analyzed = some (pass, begun)) :
    ∃ before, sentIn before = sentIn (findings.handle pass begun).events ∧
      (Request.project uri findings analyzed).handle desk =
        ⟨.ok (.diagnostics (desk.project uri findings analyzed).value.1
            (findings.handle pass begun).during),
          (desk.project uri findings analyzed).value.2,
          before ++ (desk.project uri findings analyzed).events⟩ :=
  ⟨_, by simp, handle_project_eq findings h⟩

/-- The reply to a projection has what it gives itself; what is sent first comes from its stream. -/
theorem handle_project (desk : Desk) (uri : String) (findings : Stream) (analyzed : Option Int) :
    ∃ during before, (Request.project uri findings analyzed).handle desk =
      ⟨.ok (.diagnostics (desk.project uri findings analyzed).value.1 during),
        (desk.project uri findings analyzed).value.2,
        before ++ (desk.project uri findings analyzed).events⟩ := by
  cases h : desk.begin? uri analyzed with
  | none =>
    obtain ⟨before, -, hhandle⟩ := handle_project_of_none findings h
    refine ⟨[], before, ?_⟩
    rw [hhandle, Desk.project_of_none findings h, List.append_nil]
  | some begun =>
    obtain ⟨before, -, hhandle⟩ := handle_project_of_begin findings h
    exact ⟨_, before, hhandle⟩

/-! ## Requests made -/

mutual

/-- The requests that are handled for a request, itself first, each with the desk it finds. -/
def Request.made : Request → Desk → List (Request × Desk)
  | .call call, desk => [(.call call, desk)]
  | .project uri findings analyzed, desk =>
    (.project uri findings analyzed, desk) ::
      match desk.begin? uri analyzed with
      | none => []
      | some (_, begun) => findings.made begun

def Stream.made : Stream → Desk → List (Request × Desk)
  | .done, _ => []
  | .finding _ rest, desk => rest.made desk
  | .request request rest, desk => request.made desk ++ rest.made (request.handle desk).desk

end

/-- The requests made for a projection are itself and those made for its stream. -/
theorem Request.made_project_of_begin {desk begun : Desk} {uri : String} {analyzed : Option Int}
    {pass : Pass} (findings : Stream) (h : desk.begin? uri analyzed = some (pass, begun)) :
    (Request.project uri findings analyzed).made desk =
      (.project uri findings analyzed, desk) :: findings.made begun := by
  rw [Request.made, h]

theorem Request.self_mem_made (request : Request) (desk : Desk) :
    (request, desk) ∈ request.made desk := by
  cases request <;> simp [Request.made]

/-- The requests that are handled in a run. -/
def Desk.made (desk : Desk) : List Request → List (Request × Desk)
  | [] => []
  | request :: rest => request.made desk ++ (request.handle desk).desk.made rest

/-- The request takes diagnostics off the board without a word to the editor. -/
def Request.clearsBoard : Request → Bool
  | .call (.clear _) => true
  | _ => false

structure Course where
  desk : Desk
  made : List (Request × Desk) := []
  sent : CellDiagnostics := []

namespace Course

def after (course : Course) (request : Request) : Course where
  desk := (request.handle course.desk).desk
  made := course.made ++ request.made course.desk
  sent := course.sent ++ sentIn (request.handle course.desk).events

/-- The course after a stream, read for a pass. -/
def through (course : Course) (findings : Stream) (pass : Pass) : Course where
  desk := (findings.handle pass course.desk).desk
  made := course.made ++ findings.made course.desk
  sent := course.sent ++ sentIn (findings.handle pass course.desk).events

/-- The course with a request noted that leaves the desk `desk`. -/
def note (course : Course) (request : Request) (desk : Desk) : Course :=
  { course with desk, made := course.made ++ [(request, course.desk)] }

def land (course : Course) (pass : Pass) : Course where
  desk := (course.desk.land pass).value.2
  made := course.made
  sent := course.sent ++ sentIn (course.desk.land pass).events

variable {course : Course} {uri : String} {findings : Stream} {analyzed : Option Int}

theorem after_project_of_none (h : course.desk.begin? uri analyzed = none) :
    course.after (.project uri findings analyzed) =
      course.note (.project uri findings analyzed) course.desk := by
  obtain ⟨before, hbefore, hhandle⟩ := handle_project_of_none findings h
  simp [after, note, hhandle, Request.made, h, hbefore]

/-- A projection is a beginning, its stream, and an end. -/
theorem after_project_of_begin {pass : Pass} {begun : Desk}
    (h : course.desk.begin? uri analyzed = some (pass, begun)) :
    course.after (.project uri findings analyzed) =
      ((course.note (.project uri findings analyzed) begun).through findings pass).land
        (findings.handle pass begun).pass := by
  obtain ⟨before, hbefore, hhandle⟩ := handle_project_of_begin findings h
  simp [after, note, through, land, hhandle, Request.made, h, hbefore,
    Desk.project_of_begin findings h]

theorem through_done (course : Course) (pass : Pass) : course.through .done pass = course := by
  simp [through, Stream.handle, Stream.made]

theorem through_finding (course : Course) (finding : Finding) (rest : Stream) (pass : Pass) :
    course.through (.finding finding rest) pass =
      course.through rest (pass.read finding).value := by
  simp [through, Stream.handle, Stream.made]

/-- A request in a stream is handled before what is left of the stream. -/
theorem through_request (course : Course) (request : Request) (rest : Stream) (pass : Pass) :
    course.through (.request request rest) pass = (course.after request).through rest pass := by
  simp [through, after, Stream.handle, Stream.made]

/-! ## What every request keeps -/

/-- `Q` is kept by the parts of requests, as long as every request made and the desk it finds are as
`G` says. -/
structure Keeps (G : Request × Desk → Prop) (Q : Course → Prop) : Prop where
  call (course : Course) (call : Call) (hmade : G (.call call, course.desk)) (h : Q course) :
    Q (course.after (.call call))
  pass_over (course : Course) (uri : String) (findings : Stream) (analyzed : Option Int)
    (hnone : course.desk.begin? uri analyzed = none) (h : Q course) :
    Q (course.note (.project uri findings analyzed) course.desk)
  begin (course : Course) (uri : String) (findings : Stream) (analyzed : Option Int) (pass : Pass)
    (begun : Desk) (hbegin : course.desk.begin? uri analyzed = some (pass, begun))
    (hmade : G (.project uri findings analyzed, course.desk)) (h : Q course) :
    Q (course.note (.project uri findings analyzed) begun)
  land (course : Course) (uri : String) (findings : Stream) (analyzed : Option Int) (pass : Pass)
    (begun : Desk) (hbegin : course.desk.begin? uri analyzed = some (pass, begun))
    (hmade : ∀ item ∈ (Request.project uri findings analyzed).made course.desk, G item)
    (h : Q course)
    (hread : Q ((course.note (.project uri findings analyzed) begun).through findings pass)) :
    Q (((course.note (.project uri findings analyzed) begun).through findings pass).land
      (findings.handle pass begun).pass)

variable {G : Request × Desk → Prop} {Q : Course → Prop}

mutual

/-- What the parts of requests keep, every request keeps, at whatever depth. -/
theorem Keeps.after (hkeeps : Keeps G Q) (course : Course) (request : Request)
    (hmade : ∀ item ∈ request.made course.desk, G item) (h : Q course) :
    Q (course.after request) := by
  match request with
  | .call call => exact hkeeps.call course call (hmade _ (by simp [Request.made])) h
  | .project uri findings analyzed =>
    cases hbegin : course.desk.begin? uri analyzed with
    | none =>
      rw [after_project_of_none hbegin]
      exact hkeeps.pass_over course uri findings analyzed hbegin h
    | some begun =>
      obtain ⟨pass, begun⟩ := begun
      rw [after_project_of_begin hbegin]
      have hmade' := hmade
      simp only [Request.made, hbegin, List.forall_mem_cons] at hmade'
      obtain ⟨hself, hfindings⟩ := hmade'
      have hbegun := hkeeps.begin course uri findings analyzed pass begun hbegin hself h
      exact hkeeps.land course uri findings analyzed pass begun hbegin hmade h
        (hkeeps.through _ findings pass hfindings hbegun)
termination_by structural request

/-- What the parts of requests keep, a stream keeps. -/
theorem Keeps.through (hkeeps : Keeps G Q) (course : Course) (findings : Stream) (pass : Pass)
    (hmade : ∀ item ∈ findings.made course.desk, G item) (h : Q course) :
    Q (course.through findings pass) := by
  match findings with
  | .done =>
    rw [through_done]
    exact h
  | .finding finding rest =>
    rw [through_finding]
    exact hkeeps.through course rest (pass.read finding).value hmade h
  | .request request rest =>
    obtain ⟨hrequest, hrest⟩ := List.forall_mem_append.1 hmade
    rw [through_request]
    exact hkeeps.through _ rest pass hrest (hkeeps.after course request hrequest h)
termination_by structural findings

end

/-! ## Runs -/

/-- The course after a list of requests, handled one after the other. -/
def run (course : Course) : List Request → Course
  | [] => course
  | request :: rest => (course.after request).run rest

/-- What the parts of requests keep, a run keeps. -/
theorem Keeps.run (hkeeps : Keeps G Q) (course : Course) (requests : List Request)
    (hmade : ∀ item ∈ course.desk.made requests, G item) (h : Q course) :
    Q (course.run requests) := by
  induction requests generalizing course with
  | nil => exact h
  | cons request rest ih =>
    obtain ⟨hrequest, hrest⟩ := List.forall_mem_append.1 hmade
    exact ih _ hrest (hkeeps.after course request hrequest h)

theorem made_run (course : Course) (requests : List Request) :
    (course.run requests).made = course.made ++ course.desk.made requests := by
  induction requests generalizing course with
  | nil => simp [Course.run, Desk.made]
  | cons request rest ih => rw [Course.run, ih, after, Desk.made, List.append_assoc]

/-- The requests made in the first part of a run are made in the run. -/
theorem made_take_subset (desk : Desk) (requests : List Request) (k : Nat) :
    desk.made (requests.take k) ⊆ desk.made requests := by
  induction requests generalizing desk k with
  | nil => simp
  | cons request rest ih =>
    cases k with
    | zero => simp [Desk.made]
    | succ k =>
      rw [List.take_succ_cons, Desk.made, Desk.made]
      exact List.append_subset.2 ⟨List.subset_append_left _ _,
        fun item hitem ↦ List.mem_append_right _ (ih _ k hitem)⟩

/-- The course up to an answer of a run. -/
theorem run_take (course : Course) {requests : List Request} {k : Nat} {answer : Answer}
    (h : (course.desk.run requests)[k]? = some answer) :
    (course.run (requests.take (k + 1))).desk = answer.desk ∧
      (course.run (requests.take (k + 1))).sent = course.sent ++
        sentIn (((course.desk.run requests).take (k + 1)).flatMap (·.events)) := by
  induction requests generalizing course k with
  | nil => simp [Desk.run] at h
  | cons request rest ih =>
    cases k with
    | zero =>
      obtain rfl := Option.some.inj h
      simp [Course.run, Desk.run, after]
    | succ k =>
      obtain ⟨hdesk, hsent⟩ := ih (course.after request) h
      rw [List.take_succ_cons, Course.run]
      refine ⟨hdesk, ?_⟩
      rw [hsent, Desk.run, List.take_succ_cons, List.flatMap_cons, sentIn_append,
        ← List.append_assoc]
      rfl

/-- What is kept from the start of a run holds after every answer. -/
theorem Keeps.exists_of_run (hkeeps : Keeps G Q) {desk : Desk} {requests : List Request}
    (hmade : ∀ item ∈ desk.made requests, G item) (h : Q ⟨desk, [], []⟩) {k : Nat}
    {answer : Answer} (hanswer : (desk.run requests)[k]? = some answer) :
    ∃ course, Q course ∧ course.desk = answer.desk ∧
      course.sent = sentIn (((desk.run requests).take (k + 1)).flatMap (·.events)) := by
  obtain ⟨hdesk, hsent⟩ := run_take ⟨desk, [], []⟩ hanswer
  refine ⟨_, hkeeps.run _ (requests.take (k + 1)) ?_ h, hdesk, hsent⟩
  exact fun item hitem ↦ hmade item (made_take_subset desk requests (k + 1) hitem)

/-- What is kept about the desk holds of every desk that a request found. -/
theorem Keeps.found {P : Desk → Prop} (hkeeps : Keeps G fun course ↦ P course.desk) :
    Keeps G fun course ↦ P course.desk ∧ ∀ item ∈ course.made, P item.2 where
  call course call hmade h := by
    refine ⟨hkeeps.call course call hmade h.1, ?_⟩
    rw [Course.after, Request.made]
    exact List.forall_mem_append.2 ⟨h.2, by simpa using h.1⟩
  pass_over course uri findings analyzed hnone h := by
    refine ⟨h.1, ?_⟩
    rw [Course.note]
    exact List.forall_mem_append.2 ⟨h.2, by simpa using h.1⟩
  begin course uri findings analyzed pass begun hbegin hmade h := by
    refine ⟨hkeeps.begin course uri findings analyzed pass begun hbegin hmade h.1, ?_⟩
    rw [Course.note]
    exact List.forall_mem_append.2 ⟨h.2, by simpa using h.1⟩
  land course uri findings analyzed pass begun hbegin hmade h hread :=
    ⟨hkeeps.land course uri findings analyzed pass begun hbegin hmade h.1 hread.1, hread.2⟩

/-- What is kept about the desk holds of all desks that the requests of a run found. -/
theorem Keeps.found_of_run (P : Desk → Prop) (hkeeps : Keeps G fun course ↦ P course.desk)
    {desk : Desk} {requests : List Request} (hmade : ∀ item ∈ desk.made requests, G item)
    (h : P desk) : ∀ item ∈ desk.made requests, P item.2 := by
  have hfound := (hkeeps.found.run ⟨desk, [], []⟩ requests hmade ⟨h, by simp⟩).2
  rwa [made_run, List.nil_append] at hfound

end Course

/-! ## Requests within requests -/

mutual

/-- Requests made for a request that was itself made for another were made for that one. -/
theorem Request.made_subset {request : Request} {desk : Desk} {item : Request × Desk}
    (h : item ∈ request.made desk) : item.1.made item.2 ⊆ request.made desk := by
  match request with
  | .call call =>
    obtain rfl := List.mem_singleton.1 h
    exact List.Subset.refl _
  | .project uri findings analyzed =>
    cases hbegin : desk.begin? uri analyzed with
    | none =>
      simp only [Request.made, hbegin, List.mem_singleton] at h
      rw [h]
      exact List.Subset.refl _
    | some begun =>
      simp only [Request.made, hbegin, List.mem_cons] at h
      rcases h with rfl | h
      · exact List.Subset.refl _
      · intro inner hinner
        simp only [Request.made, hbegin]
        exact List.mem_cons_of_mem _ (Stream.made_subset h hinner)
termination_by structural request

theorem Stream.made_subset {findings : Stream} {desk : Desk} {item : Request × Desk}
    (h : item ∈ findings.made desk) : item.1.made item.2 ⊆ findings.made desk := by
  match findings with
  | .done => exact absurd h List.not_mem_nil
  | .finding _ rest => exact @Stream.made_subset rest _ _ h
  | .request request rest =>
    intro inner hinner
    rcases List.mem_append.1 h with h | h
    · exact List.mem_append_left _ (Request.made_subset h hinner)
    · exact List.mem_append_right _ (Stream.made_subset h hinner)
termination_by structural findings

end

/-- A run has made what was made for any of the requests made in it. -/
theorem Desk.made_subset {desk : Desk} {requests : List Request} {item : Request × Desk}
    (h : item ∈ desk.made requests) : item.1.made item.2 ⊆ desk.made requests := by
  induction requests generalizing desk with
  | nil => exact absurd h List.not_mem_nil
  | cons request rest ih =>
    intro inner hinner
    rcases List.mem_append.1 h with h | h
    · exact List.mem_append_left _ (Request.made_subset h hinner)
    · exact List.mem_append_right _ (ih h hinner)

end Session

end CellWeave
