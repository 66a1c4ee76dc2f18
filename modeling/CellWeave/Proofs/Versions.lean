import CellWeave.Proofs.History
import CellWeave.Workspace.Request
/-!
# Versions

Whatever requests come, to a workspace or to a session, the stages of the run make a history of the
workspace. So a version under a uri stands for one content for ever, and the version check of a
projection lets findings pass only if the text that is open is the one they were computed for.
-/

namespace CellWeave

/-- The uri that a request is to open or change a notebook under, if it did not fail. -/
def changedBy {ρ : Type} (target : Option String) (reply : Except SyncError ρ) : Option String :=
  target.filter fun _ ↦ reply.isOk

@[simp] theorem changedBy_error {ρ : Type} (target : Option String) (error : SyncError) :
    changedBy target (.error error : Except SyncError ρ) = none := by
  cases target <;> rfl

@[simp] theorem changedBy_map {ρ ρ' : Type} (target : Option String) (f : ρ → ρ')
    (reply : Except SyncError ρ) : changedBy target (reply.map f) = changedBy target reply := by
  cases reply <;> rfl

namespace Workspace

/-! ## Requests to an open notebook -/

section Within

variable {workspace : Workspace} {uri : String} {notebook : Notebook}

theorem turn_readIndex (hopen : workspace.get? uri = some notebook) :
    workspace.Turn none (workspace.put notebook.readIndex.value.2) := by
  unfold Notebook.readIndex
  split
  · exact .index hopen (.inl rfl)
  · exact .index hopen (.inr rfl)

/-- A request to an open notebook is a turn under its uri. -/
theorem turn_handle (hopen : workspace.get? uri = some notebook) (kept : Option DocumentIndex)
    (request : Notebook.Request) :
    workspace.Turn
      (changedBy (if request.isChange then some uri else none)
        (Notebook.Desk.handle ⟨notebook, kept⟩ request).reply)
      (workspace.put (Notebook.Desk.handle ⟨notebook, kept⟩ request).state.notebook) := by
  have hchanged : changedBy (if request.isChange then some uri else none)
      (Notebook.Desk.handle ⟨notebook, kept⟩ request).reply =
        if Notebook.Desk.changes ⟨notebook, kept⟩ request then some uri else none := by
    rw [Notebook.Desk.changes, changedBy]
    cases request.isChange <;> simp [Option.filter]
  rw [hchanged]
  cases Notebook.Desk.effect ⟨notebook, kept⟩ request with
  | read _ hchanges hnotebook _ =>
    rw [hchanges, hnotebook]
    exact turn_readIndex hopen
  | change _ hchanges table hnotebook _ =>
    rw [hchanges, hnotebook]
    exact .change hopen table
  | stay _ hchanges hnotebook _ =>
    rw [hchanges, hnotebook]
    exact .index hopen (.inl rfl)

/-- Closing a notebook is a turn that changes no version. -/
theorem turn_closeNotebook (workspace : Workspace) (uri : String) :
    workspace.Turn none (workspace.closeNotebook uri).value.2 := by
  cases hopen : workspace.get? uri with
  | none =>
    rw [closeNotebook, hopen]
    exact .stay
  | some notebook => exact .close hopen

theorem history_of_turn {before after : Workspace} (hturn : before.Turn none after) :
    History before [⟨before, after, none, none⟩] after := by
  let stage : Stage := ⟨before, after, none, none⟩
  have hoccurs : stage.Occurs := ⟨hturn, nofun⟩
  exact hoccurs.history

end Within

/-! ## Runs of a workspace -/

/-- The uri under which a request is to open or change a notebook. -/
def Request.target? : Request → Option String
  | .openNotebook uri _ => some uri
  | .within uri request => if request.isChange then some uri else none
  | _ => none

namespace Desk

/-- The document that was given, with the uri it was asked for under. -/
def given? : Request → Except SyncError Reply → Option (String × Document)
  | .within uri (.document _), .ok (.within (.document document)) => some (uri, document)
  | _, _ => none

def stage (desk : Desk) (request : Request) : Stage where
  found := desk.workspace
  after := (desk.handle request).state.workspace
  changed := changedBy request.target? (desk.handle request).reply
  document := given? request (desk.handle request).reply

/-- The stages of a run, one for each request. -/
def stages (desk : Desk) : List Request → List Stage
  | [] => []
  | request :: rest => desk.stage request :: (desk.handle request).state.stages rest

variable {desk : Desk}

/-- A request to a workspace is one turn. -/
theorem turn_stage (desk : Desk) (request : Request) :
    (desk.stage request).found.Turn (desk.stage request).changed
      (desk.stage request).after := by
  cases request with
  | openNotebook uri cells =>
    cases hopened : desk.workspace.openNotebook uri cells with
    | ok opened =>
      simp only [stage, handle, hopened]
      exact .openNotebook hopened
    | error error =>
      simp only [stage, handle, hopened]
      exact .stay
  | closeNotebook uri => exact turn_closeNotebook desk.workspace uri
  | get | fetch | isOpen | owner => exact .stay
  | within uri request =>
    cases hfetch : desk.workspace.fetch uri with
    | error error =>
      simp only [stage, handle, hfetch, tell, changedBy_error]
      exact .stay
    | ok notebook =>
      simp only [stage, handle, hfetch, changedBy_map]
      exact turn_handle (fetch_eq_ok_iff.1 hfetch) (desk.held.get? uri) request

theorem given?_eq_some {request : Request} {reply : Except SyncError Reply} {uri : String}
    {document : Document} (h : given? request reply = some (uri, document)) :
    ∃ language, request = .within uri (.document language) ∧
      reply = .ok (.within (.document document)) := by
  unfold given? at h
  split at h
  · obtain ⟨rfl, rfl⟩ := Prod.mk.inj (Option.some.inj h)
    exact ⟨_, rfl, rfl⟩
  · simp at h

theorem occurs_stage (desk : Desk) (request : Request) : (desk.stage request).Occurs where
  turn := desk.turn_stage request
  document {uri document} h := by
    obtain ⟨language, rfl, hreply⟩ := given?_eq_some h
    cases hfetch : desk.workspace.fetch uri with
    | error error => simp [handle, hfetch, tell] at hreply
    | ok notebook =>
      simp only [handle, hfetch] at hreply
      obtain ⟨⟨rfl⟩⟩ := hreply
      exact ⟨notebook, language, fetch_eq_ok_iff.1 hfetch, rfl⟩

theorem history_stages (desk : Desk) (requests : List Request) :
    ∃ last, History desk.workspace (desk.stages requests) last := by
  induction requests generalizing desk with
  | nil => exact ⟨_, .nil _⟩
  | cons request rest ih =>
    obtain ⟨last, hrest⟩ := ih (desk.handle request).state
    exact ⟨last, .cons (desk.occurs_stage request) hrest⟩

end Desk

end Workspace

/-! ## Runs of a session -/

namespace Session

open Workspace (Stage History)

/-- The uri under which a call is to open or change a notebook. -/
def Call.target? : Call → Option String
  | .openNotebook uri _ | .changeStructure uri _ _ | .changeContent uri _ _ _ => some uri
  | .within uri request => if request.isChange then some uri else none
  | _ => none

theorem workspace_forgetCells (session : Session) (uri : String) (cells : List String) :
    (session.forgetCells uri cells).value.workspace = session.workspace := by
  induction cells generalizing session with
  | nil => rfl
  | cons cell rest ih => exact ih _

theorem workspace_closeNotebook (session : Session) (uri : String) :
    (session.closeNotebook uri).value.2.workspace =
      (session.workspace.closeNotebook uri).value.2 := by
  cases hopen : session.workspace.get? uri <;>
    simp only [closeNotebook, Workspace.closeNotebook, hopen]

namespace Desk

/-- The document that was given, with the uri it was asked for under. -/
def given? : Call → Except SyncError Reply → Option (String × Document)
  | .document uri, .ok (.document document) => some (uri, document)
  | .within uri (.document _), .ok (.within (.document document)) => some (uri, document)
  | _, _ => none

def stage (desk : Desk) (call : Call) : Stage where
  found := desk.session.workspace
  after := (desk.call call).desk.session.workspace
  changed := changedBy call.target? (desk.call call).reply
  document := given? call (desk.call call).reply

/-- The content changes that apply a fix, up to the first that fails. -/
def applied (desk : Desk) (uri : String) : List EditGroup → List (Call × Desk)
  | [] => []
  | group :: rest =>
    let call := Call.changeContent uri group.cell group.edits none
    (call, desk) ::
      if (desk.call call).reply.isOk then (desk.call call).desk.applied uri rest else []

/-- The calls that a call is made of, each with the desk it finds: a fix is projected and then
applied cell by cell. -/
def parts (desk : Desk) : Call → List (Call × Desk)
  | .applyFix uri fix =>
    (.projectFix uri fix, desk) ::
      match (desk.call (.projectFix uri fix)).reply with
      | .ok (.fix (some projected)) =>
        (desk.call (.projectFix uri fix)).desk.applied uri projected.groups
      | _ => []
  | call => [(call, desk)]

variable {desk : Desk} {call : Call} {uri : String} {document : Document}

/-- An operation that fails leaves the notebooks, so it is a turn if it is one where it succeeds. -/
theorem turn_attempt {α : Type} {reply : α → Reply} {target : Option String}
    {result : Except SyncError (Witnessed (α × Session))}
    (h : ∀ done, result = .ok done →
      desk.session.workspace.Turn target done.value.2.workspace) :
    desk.session.workspace.Turn (changedBy target (desk.attempt reply result).reply)
      (desk.attempt reply result).desk.session.workspace := by
  cases result with
  | ok done =>
    have hchanged : changedBy target (desk.attempt reply (.ok done)).reply = target := by
      cases target <;> rfl
    rw [hchanged]
    exact h done rfl
  | error error =>
    rw [attempt, tell, changedBy_error]
    exact .stay

theorem turn_changeStructure {session : Session} {opened : List (Int × Cell)}
    {closed : List String} {done : Witnessed (Notebook × Session)}
    (h : session.changeStructure uri opened closed = .ok done) :
    session.workspace.Turn (some uri) done.value.2.workspace := by
  obtain ⟨notebook, hfetch, h⟩ := bind_eq_ok_iff.1 h
  obtain ⟨change, hchange, h⟩ := bind_eq_ok_iff.1 h
  obtain rfl := Except.ok.inj h
  obtain ⟨-, cells, -, -, rfl⟩ := Notebook.changeStructure_eq_ok_iff.1 hchange
  simp only [workspace_forgetCells]
  exact .change (Workspace.fetch_eq_ok_iff.1 hfetch) cells

theorem turn_changeContent {session : Session} {cell : String} {edits : List Edit}
    {version : Option Int} {done : Witnessed (Cell × Session)}
    (h : session.changeContent uri cell edits version = .ok done) :
    session.workspace.Turn (some uri) done.value.2.workspace := by
  obtain ⟨notebook, hfetch, h⟩ := bind_eq_ok_iff.1 h
  obtain ⟨change, hchange, h⟩ := bind_eq_ok_iff.1 h
  obtain rfl := Except.ok.inj h
  obtain ⟨_, _, _, -, -, -, rfl⟩ := Notebook.changeContent_eq_ok_iff.1 hchange
  exact .change (Workspace.fetch_eq_ok_iff.1 hfetch) _

/-- A call other than a fix is one turn. -/
theorem turn_call (desk : Desk) (h : ∀ uri fix, call ≠ .applyFix uri fix) :
    desk.session.workspace.Turn (changedBy call.target? (desk.call call).reply)
      (desk.call call).desk.session.workspace := by
  cases call with
  | openNotebook uri cells =>
    refine turn_attempt fun done hdone ↦ ?_
    obtain ⟨opened, hopened, hdone⟩ := bind_eq_ok_iff.1 hdone
    obtain rfl := Except.ok.inj hdone
    exact .openNotebook hopened
  | closeNotebook uri =>
    rw [Desk.call, finish, workspace_closeNotebook]
    exact Workspace.turn_closeNotebook desk.session.workspace uri
  | changeStructure => exact turn_attempt fun _ ↦ turn_changeStructure
  | changeContent => exact turn_attempt fun _ ↦ turn_changeContent
  | document | projectFix =>
    refine turn_attempt fun done hdone ↦ ?_
    obtain ⟨notebook, hfetch, hdone⟩ := bind_eq_ok_iff.1 hdone
    obtain rfl := Except.ok.inj hdone
    exact Workspace.turn_readIndex (Workspace.fetch_eq_ok_iff.1 hfetch)
  | applyFix uri fix => exact absurd rfl (h uri fix)
  | owner uri line =>
    cases hopen : desk.session.workspace.get? uri with
    | none =>
      simp only [Desk.call, finish, Session.owner, hopen]
      exact .stay
    | some notebook =>
      simp only [Desk.call, finish, Session.owner, hopen]
      exact Workspace.turn_readIndex hopen
  | knowsCell | notebookOfCell => exact .stay
  | clear uri =>
    refine turn_attempt fun done hdone ↦ ?_
    obtain ⟨notebook, -, hdone⟩ := bind_eq_ok_iff.1 hdone
    obtain rfl := Except.ok.inj hdone
    exact .stay
  | within uri request =>
    cases hfetch : desk.session.workspace.fetch uri with
    | error error =>
      simp only [Desk.call, Desk.within, hfetch, tell, changedBy_error]
      exact .stay
    | ok notebook =>
      simp only [Desk.call, Desk.within, hfetch, changedBy_map]
      exact Workspace.turn_handle (Workspace.fetch_eq_ok_iff.1 hfetch) (desk.held.get? uri) request

theorem document_of_given (h : given? call (desk.call call).reply = some (uri, document)) :
    ∃ notebook language, desk.session.workspace.get? uri = some notebook ∧
      document = notebook.documentOf language notebook.readIndex.value.1 := by
  unfold given? at h
  split at h
  · next under given hreply =>
    obtain ⟨rfl, rfl⟩ := Prod.mk.inj (Option.some.inj h)
    rw [Desk.call] at hreply
    cases hdocument : desk.session.document under with
    | error error => simp [hdocument, attempt, tell] at hreply
    | ok done =>
      obtain ⟨notebook, hfetch, hdone⟩ := bind_eq_ok_iff.1 hdocument
      obtain rfl := Except.ok.inj hdone
      rw [hdocument] at hreply
      obtain ⟨⟨rfl⟩⟩ := hreply
      refine ⟨notebook, desk.session.language, Workspace.fetch_eq_ok_iff.1 hfetch, ?_⟩
      exact congrArg (Document.mk · _ _ _) (Notebook.uri_readIndex notebook)
  · next under language given hreply =>
    obtain ⟨rfl, rfl⟩ := Prod.mk.inj (Option.some.inj h)
    cases hfetch : desk.session.workspace.fetch under with
    | error error => simp [Desk.call, Desk.within, hfetch, tell] at hreply
    | ok notebook =>
      simp only [Desk.call, Desk.within, hfetch] at hreply
      obtain ⟨⟨rfl⟩⟩ := hreply
      exact ⟨notebook, language, Workspace.fetch_eq_ok_iff.1 hfetch, rfl⟩
  · simp at h

theorem occurs_stage (desk : Desk) (h : ∀ uri fix, call ≠ .applyFix uri fix) :
    (desk.stage call).Occurs where
  turn := desk.turn_call h
  document hgiven := document_of_given hgiven

theorem history_stage (desk : Desk) (call : Call) (h : ∀ uri fix, call ≠ .applyFix uri fix) :
    History desk.session.workspace [desk.stage call] (desk.call call).desk.session.workspace :=
  (desk.occurs_stage h).history

/-- A fix is a history of its content changes. -/
theorem history_applied (desk : Desk) (uri : String) (changed : List Cell)
    (groups : List EditGroup) :
    History desk.session.workspace
      ((desk.applied uri groups).map fun part ↦ part.2.stage part.1)
      (desk.applyGroups uri changed groups).desk.session.workspace := by
  induction groups generalizing desk changed with
  | nil => exact .nil _
  | cons group rest ih =>
    have hstage : History desk.session.workspace _ _ :=
      desk.history_stage (.changeContent uri group.cell group.edits none) (by simp)
    cases hchange : desk.session.changeContent uri group.cell group.edits none with
    | error error =>
      have hcall : desk.call (.changeContent uri group.cell group.edits none) =
          desk.tell (.error error) := by
        rw [Desk.call, hchange, attempt]
      rw [hcall] at hstage
      simp only [applied, applyGroups, hchange, hcall]
      exact hstage
    | ok done =>
      have hcall : desk.call (.changeContent uri group.cell group.edits none) =
          desk.finish .cell done := by
        rw [Desk.call, hchange, attempt]
      rw [hcall] at hstage
      simp only [applied, applyGroups, hchange, hcall]
      exact hstage.append (ih { desk with session := done.value.2 } (changed ++ [done.value.1]))

/-- Each call is a history of its parts. -/
theorem history_parts (desk : Desk) (call : Call) :
    History desk.session.workspace
      ((desk.parts call).map fun part ↦ part.2.stage part.1)
      (desk.call call).desk.session.workspace := by
  cases call with
  | applyFix uri fix =>
    have hstage : History desk.session.workspace _ _ :=
      desk.history_stage (.projectFix uri fix) (by simp)
    cases hfix : desk.session.projectFix uri fix with
    | error error =>
      have hcall : desk.call (.projectFix uri fix) = desk.tell (.error error) := by
        rw [Desk.call, hfix, attempt]
      rw [hcall] at hstage
      simp only [parts, Desk.call, Desk.applyFix, hfix]
      exact hstage
    | ok done =>
      obtain ⟨⟨projected, session⟩, events⟩ := done
      have hcall : desk.call (.projectFix uri fix) =
          desk.finish .fix ⟨(projected, session), events⟩ := by
        rw [Desk.call, hfix, attempt]
      rw [hcall] at hstage
      simp only [parts, Desk.call, Desk.applyFix, hfix]
      cases projected with
      | none => exact hstage
      | some projected =>
        exact hstage.append (history_applied { desk with session } uri [] projected.groups)
  | _ => exact desk.history_stage _ (by simp)

end Desk

/-- The stages of one request, those in its stream left out: its parts, or the beginning of its
projection. -/
def Request.stages : Request → Desk → List Stage
  | .call whole, desk => (desk.parts whole).map fun part ↦ part.2.stage part.1
  | .project uri _ analyzed, desk =>
    [⟨desk.session.workspace,
      ((desk.begin? uri analyzed).elim desk (·.2)).session.workspace, none, none⟩]

/-- The stages of a run, those in streams of findings where they come. -/
def Desk.stages (desk : Desk) (requests : List Request) : List Stage :=
  (desk.made requests).flatMap fun item ↦ item.1.stages item.2

theorem keeps_history (first : Workspace) :
    Course.Keeps (fun _ ↦ True) fun course ↦
      History first (course.made.flatMap fun item ↦ item.1.stages item.2)
        course.desk.session.workspace where
  call course call _ h := by
    rw [Course.after, Request.made, List.flatMap_append, List.flatMap_singleton]
    exact h.append (course.desk.history_parts call)
  pass_over course uri findings analyzed hnone h := by
    rw [Course.note, List.flatMap_append, List.flatMap_singleton, Request.stages, hnone]
    exact h.append (Workspace.history_of_turn .stay)
  begin course uri findings analyzed pass begun hbegin _ h := by
    obtain ⟨notebook, hopen, -, -, -, hbegun⟩ := Desk.begin_eq_some hbegin
    rw [Course.note, List.flatMap_append, List.flatMap_singleton, Request.stages, hbegin]
    subst hbegun
    exact h.append (Workspace.history_of_turn (Workspace.turn_readIndex hopen))
  land course uri findings analyzed pass begun hbegin _ _ hread := hread

/-- The stages of a run of a session are a history. -/
theorem Desk.history_stages (desk : Desk) (requests : List Request) :
    ∃ last, History desk.session.workspace (desk.stages requests) last := by
  have hrun := (keeps_history desk.session.workspace).run ⟨desk, [], []⟩ requests
    (fun _ _ ↦ trivial) (.nil _)
  rw [Course.made_run, List.nil_append] at hrun
  exact ⟨_, hrun⟩

/-- The index that a projection of findings for a version reads is that of the open notebook. -/
theorem Desk.index_of_begin {desk begun : Desk} (h : desk.session.workspace.Filed) {uri : String}
    {version : Int} {pass : Pass} (hbegin : desk.begin? uri (some version) = some (pass, begun)) :
    ∃ notebook, desk.session.workspace.get? uri = some notebook ∧ notebook.version = version ∧
      pass.index = notebook.index := by
  obtain ⟨notebook, hopen, hversion, -, rfl, -⟩ := Desk.begin_eq_some hbegin
  exact ⟨notebook, hopen, (hversion version rfl).symm, (h.keepsIndex hopen).readIndex_eq⟩

/-- In every run of a workspace and in every run of a session the versions under a uri are faithful
to what is open there. Findings that pass the version check of a projection were computed for the
text that is open, if a document of their version was ever given for the uri. -/
theorem faithful_stages :
    (∀ delimiter requests,
      Workspace.Faithful (Workspace.Desk.stages ⟨.empty delimiter, []⟩ requests)) ∧
    ∀ language delimiter publishes requests,
      let desk : Desk := ⟨start language delimiter publishes, []⟩
      Workspace.Faithful (desk.stages requests) ∧
        ∀ uri findings version found pass begun,
          (Request.project uri findings (some version), found) ∈ desk.made requests →
          found.begin? uri (some version) = some (pass, begun) →
          ∃ notebook, found.session.workspace.get? uri = some notebook ∧
            notebook.version = version ∧ pass.index = notebook.index ∧
            ∀ stage ∈ desk.stages requests, ∀ document,
              stage.document = some (uri, document) → document.version = version →
              document.text = notebook.index.text := by
  constructor
  · intro delimiter requests
    obtain ⟨_, hhistory⟩ := Workspace.Desk.history_stages ⟨.empty delimiter, []⟩ requests
    exact hhistory.faithful
  · intro language delimiter publishes requests desk
    obtain ⟨_, hhistory⟩ := desk.history_stages requests
    have hempty := Workspace.filed_empty delimiter
    refine ⟨hhistory.faithful, ?_⟩
    intro uri findings version found pass begun hmade hbegin
    have hmem : _ ∈ desk.stages requests := List.mem_flatMap.2 ⟨_, hmade, List.mem_singleton_self _⟩
    have hfound := (hhistory.of_mem hempty hmem).1
    obtain ⟨notebook, hopen, rfl, hindex⟩ := Desk.index_of_begin hfound hbegin
    refine ⟨notebook, hopen, rfl, hindex, ?_⟩
    intro stage hstage document hdocument hversion
    exact (hhistory.text_eq hempty hmem hstage hopen hdocument hversion).1

def closedOnce : Desk :=
  (openedOnce.call (.closeNotebook "u")).desk

def openedTwice : Desk :=
  (closedOnce.call opening).desk

def documentGiven : Desk :=
  (openedTwice.call (.document "u")).desk

/-- A notebook is opened, closed and opened again, and then findings come for its document. -/
def reopening : List Request :=
  [.call opening, .call (.closeNotebook "u"), .call opening, .call (.document "u"),
    .project "u" .done (some 2)]

/-- A notebook that is closed and opened again goes on from its last version. -/
theorem faithful_stages_reopening :
    (∃ notebook, openedTwice.session.workspace.get? "u" = some notebook ∧ notebook.version = 2) ∧
      ∃ notebook document,
        documentGiven.session.workspace.get? "u" = some notebook ∧ notebook.version = 2 ∧
        (openedTwice.stage (.document "u")).document = some ("u", document) ∧
        document.text = notebook.index.text := by
  obtain ⟨hfaithful, hproject⟩ :=
    faithful_stages.2 Notebook.standardLanguage .default true reopening
  constructor
  · have hstages : Desk.stages .blank reopening =
        [Desk.stage .blank opening, openedOnce.stage (.closeNotebook "u")] ++
        closedOnce.stage opening :: [openedTwice.stage (.document "u"), _] :=
      rfl
    obtain ⟨notebook, hopen, hversion⟩ := hfaithful.raised hstages rfl
    exact ⟨notebook, hopen, hversion.trans (by decide)⟩
  · have hmade : (Request.project "u" .done (some 2), documentGiven) ∈
        Desk.made .blank reopening :=
      List.mem_of_getElem? (i := 4) rfl
    have hstage : openedTwice.stage (.document "u") ∈ Desk.stages .blank reopening :=
      List.mem_of_getElem? (i := 3) rfl
    obtain ⟨notebook, hopen, hversion, -, htext⟩ :=
      hproject "u" .done 2 documentGiven _ _ hmade rfl
    exact ⟨notebook, _, hopen, hversion, rfl, htext _ hstage _ rfl rfl⟩

end Session

end CellWeave
