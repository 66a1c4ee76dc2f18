import CellWeave.Proofs.Fate
/-!
# Closed notebooks

A notebook that is closed is retired, and a pass for a retired notebook comes to nothing. A notebook
that is opened over is not retired: a pass that began for it ends as if it were open, also when its
uri was closed in the meantime. But for that, nothing is remembered of a uri that is not open.
-/

namespace CellWeave

namespace Session

/-- Nothing is remembered of a uri that is not open. -/
structure Calm (session : Session) : Prop where
  tidy : session.Tidy
  rememberedCells_eq_nil {uri : String} (h : session.workspace.get? uri = none) :
    session.board.rememberedCells uri = []

variable {session after origin : Session} {call : Call} {sent : CellDiagnostics} {uri : String}
  {notebook : Notebook}

theorem calm_start (language : Text) (delimiter : Delimiter) (publishes : Bool) :
    (start language delimiter publishes).Calm :=
  ⟨⟨sound_start language delimiter publishes, nofun⟩, fun _ ↦ rfl⟩

/-- Steps keep what is remembered under open notebooks. -/
theorem Calm.step (h : session.Calm) (hcall : (Request.call call).clearsBoard = false)
    (hstep : Step origin call session sent after) : after.Calm := by
  refine ⟨h.tidy.step hcall hstep, ?_⟩
  intro other hclosed
  cases hstep with
  | put hopen hnext =>
    rw [h.tidy.sound.get?_put hopen hnext] at hclosed
    split at hclosed
    · simp at hclosed
    · exact h.rememberedCells_eq_nil hclosed
  | @close _ uri notebook hopen _ =>
    rw [Workspace.get?_closeNotebook hopen] at hclosed
    rw [Board.clear_of_not_retired (h.tidy.not_retired hopen), Board.rememberedCells_erase,
      h.tidy.sound.uri_eq hopen]
    split at hclosed
    · next heq => rw [if_pos heq]
    · next hne =>
      rw [if_neg hne]
      exact h.rememberedCells_eq_nil hclosed
  | @forget _ _ uri cell _ =>
    have hnil := h.rememberedCells_eq_nil hclosed
    rw [Board.rememberedCells_clearCell]
    split
    · next heq => rw [← heq, hnil, List.filter_nil]
    · exact hnil
  | openNotebook hopened =>
    rw [Workspace.get?_openNotebook hopened] at hclosed
    split at hclosed
    · simp at hclosed
    · exact h.rememberedCells_eq_nil hclosed
  | clear hopen => simp [Request.clearsBoard] at hcall

theorem Calm.trace (h : session.Calm) (hcall : (Request.call call).clearsBoard = false)
    (htrace : Trace origin call session sent after) : after.Calm := by
  induction htrace with
  | refl => exact h
  | step hstep _ ih => exact ih (h.step hcall hstep)

/-- A projection begins under an open notebook. -/
theorem Calm.begin {desk begun : Desk} (h : desk.session.Calm) {analyzed : Option Int}
    {pass : Pass} (hbegin : desk.begin? uri analyzed = some (pass, begun)) :
    begun.session.Calm := by
  refine ⟨h.tidy.begin hbegin, ?_⟩
  obtain ⟨notebook, hopen, -, -, -, rfl⟩ := Desk.begin_eq_some hbegin
  intro other hclosed
  rw [h.tidy.sound.get?_put hopen (Notebook.next_readIndex notebook)] at hclosed
  split at hclosed
  · simp at hclosed
  · exact h.rememberedCells_eq_nil hclosed

/-! ## Ends of projections -/

/-- The projection began for a notebook with cells, another was opened in its place, and at the end
none is open under the uri. -/
def Desk.Strays (desk : Desk) (uri : String) (findings : Stream) (analyzed : Option Int) : Prop :=
  ∃ notebook pass begun, desk.session.workspace.get? uri = some notebook ∧ notebook.cells ≠ [] ∧
    desk.begin? uri analyzed = some (pass, begun) ∧
    Replaces (findings.made begun) uri notebook.incarnation ∧
    (desk.project uri findings analyzed).value.2.session.workspace.get? uri = none

variable {desk begun : Desk} {findings : Stream} {analyzed : Option Int} {pass : Pass}

/-- A projection that strays gives the diagnostics of the notebook it began for. -/
theorem Desk.Strays.ne_nil (hstrays : desk.Strays uri findings analyzed)
    (h : desk.session.Tidy)
    (hmade : ∀ item ∈ (Request.project uri findings analyzed).made desk,
      item.1.clearsBoard = false) :
    (desk.project uri findings analyzed).value.1 ≠ [] := by
  obtain ⟨notebook, pass, begun, hopen, hcells, hbegin, hreplaces, -⟩ := hstrays
  rw [Request.made_project_of_begin findings hbegin] at hmade
  obtain ⟨-, hmade⟩ := List.forall_mem_cons.1 hmade
  apply h.sound.project_ne_nil findings hopen hcells hbegin
  cases (h.fate_of_begin findings hopen hbegin hmade).2 with
  | stays _ _ _ hkept => exact absurd hreplaces hkept
  | retired _ hkept => exact absurd hreplaces hkept
  | replaced _ _ hretired _ => exact hretired

/-- A projection that does not stray gives nothing if its uri is closed at its end, and leaves
nothing remembered of it. -/
theorem Calm.project (h : desk.session.Calm)
    (hbegin : desk.begin? uri analyzed = some (pass, begun))
    (hmade : ∀ item ∈ findings.made begun, item.1.clearsBoard = false)
    (hread : (findings.handle pass begun).desk.session.Calm)
    (hstays : ¬ desk.Strays uri findings analyzed) :
    (desk.project uri findings analyzed).value.2.session.Calm ∧
      ((desk.project uri findings analyzed).value.2.session.workspace.get? uri = none →
        (desk.project uri findings analyzed).value.1 = []) := by
  obtain ⟨notebook, hopen, -, -, hpass, -⟩ := h.tidy.sound.concerns_of_begin hbegin
  have hconcerns := findings.concerns_handle begun hpass
  have huri := h.tidy.sound.uri_eq hopen
  have hfate := (h.tidy.fate_of_begin findings hopen hbegin hmade).2
  have hstrays : (findings.handle pass begun).desk.session.workspace.get? uri = none →
      Replaces (findings.made begun) uri notebook.incarnation → notebook.cells = [] := by
    intro hclosed hreplaces
    by_contra hcells
    refine hstays ⟨notebook, pass, begun, hopen, hcells, hbegin, hreplaces, ?_⟩
    rw [Desk.project_of_begin findings hbegin]
    exact hclosed
  rw [Desk.project_of_begin findings hbegin]
  generalize findings.handle pass begun = reading at hread hconcerns hfate hstrays
  have htidy := hread.tidy.finish reading.pass
  rw [Desk.land_diagnostics, Desk.land_session]
  by_cases hretired : reading.pass.incarnation ∈ reading.desk.session.board.retired
  · rw [Board.finish_of_retired hretired]
    exact ⟨hread, fun _ ↦ rfl⟩
  · have hempty (hclosed : reading.desk.session.workspace.get? uri = none) :
        reading.pass.byCell = [] := by
      rw [hconcerns.incarnation_eq] at hretired
      cases hfate with
      | stays found hfound _ _ => simp [hclosed] at hfound
      | retired hmem _ => exact absurd hmem hretired
      | replaced hreplaced _ _ _ =>
        have hkeys : reading.pass.byCell.keys = [] := by
          rw [List.eq_nil_iff_forall_not_mem]
          intro cell hcell
          rw [hconcerns.mem_keys_iff, Notebook.uris, hstrays hclosed hreplaced] at hcell
          exact List.not_mem_nil hcell
        exact List.map_eq_nil_iff.1 hkeys
    have hfinish := Board.finish_of_not_retired hretired
    rw [hconcerns.notebook_eq, huri] at hfinish
    rw [hfinish] at htidy ⊢
    refine ⟨⟨htidy, ?_⟩, ?_⟩
    · intro other hclosed
      rw [Board.rememberedCells_set]
      split
      · next heq =>
        rw [hempty (heq ▸ hclosed)]
        rfl
      · exact hread.rememberedCells_eq_nil hclosed
    · intro hclosed
      rw [hempty hclosed, hread.rememberedCells_eq_nil hclosed]
      simp [CellDiagnostics.withLeftovers, CellDiagnostics.blank, CellDiagnostics.sortUris]

/-! ## Runs -/

/-- As long as no projection strays, the session stays calm. -/
theorem keeps_calm : Course.Keeps
    (fun item ↦ item.1.clearsBoard = false ∧ ∀ uri findings analyzed,
      item.1 = .project uri findings analyzed → ¬ item.2.Strays uri findings analyzed)
    fun course ↦ course.desk.session.Calm where
  call course call hmade h := h.trace hmade.1 (Desk.trace_call course.desk call)
  pass_over _ _ _ _ _ h := h
  begin _ _ _ _ _ _ hbegin _ h := h.begin hbegin
  land course uri findings analyzed pass begun hbegin hmade h hread := by
    rw [Request.made_project_of_begin findings hbegin] at hmade
    obtain ⟨hself, hmade⟩ := List.forall_mem_cons.1 hmade
    have hcalm := (h.project hbegin (fun item hitem ↦ (hmade item hitem).1) hread
      (hself.2 uri findings analyzed rfl)).1
    rw [Desk.project_of_begin findings hbegin] at hcalm
    exact hcalm

/-- A closed notebook stays clear exactly in those runs in which no projection strays: nothing is
marked for a uri that is not open, and a projection at whose end its uri is not open gives and sends
nothing. -/
theorem stays_clear_iff (language : Text) (delimiter : Delimiter) (publishes : Bool)
    {requests : List Request}
    (hclear : ∀ item ∈ Desk.made ⟨start language delimiter publishes, []⟩ requests,
      item.1.clearsBoard = false) :
    ((∀ answer ∈ Desk.run ⟨start language delimiter publishes, []⟩ requests, ∀ uri,
        answer.desk.session.workspace.get? uri = none →
          answer.desk.session.board.markedCells uri = []) ∧
      ∀ uri findings analyzed found, (Request.project uri findings analyzed, found) ∈
          Desk.made ⟨start language delimiter publishes, []⟩ requests →
        (found.project uri findings analyzed).value.2.session.workspace.get? uri = none →
          (found.project uri findings analyzed).value.1 = [] ∧
            sentIn (found.project uri findings analyzed).events = []) ↔
      ∀ uri findings analyzed found, (Request.project uri findings analyzed, found) ∈
          Desk.made ⟨start language delimiter publishes, []⟩ requests →
        ¬ found.Strays uri findings analyzed := by
  have hstart := calm_start language delimiter publishes
  constructor
  · rintro ⟨-, hprojects⟩ uri findings analyzed found hitem hstrays
    have htidy : found.session.Tidy :=
      keeps_tidy.found_of_run (fun desk ↦ desk.session.Tidy) hclear hstart.tidy _ hitem
    have hmade : ∀ item ∈ (Request.project uri findings analyzed).made found,
        item.1.clearsBoard = false :=
      fun item hinner ↦ hclear item (Desk.made_subset hitem hinner)
    have hnil := hprojects uri findings analyzed found hitem
    obtain ⟨_, _, _, _, _, _, _, hclosed⟩ := id hstrays
    exact hstrays.ne_nil htidy hmade (hnil hclosed).1
  · intro hstays
    have hmade : ∀ item ∈ Desk.made ⟨start language delimiter publishes, []⟩ requests,
        item.1.clearsBoard = false ∧ ∀ uri findings analyzed,
          item.1 = .project uri findings analyzed → ¬ item.2.Strays uri findings analyzed := by
      rintro ⟨request, found⟩ hitem
      refine ⟨hclear _ hitem, ?_⟩
      rintro uri findings analyzed rfl
      exact hstays uri findings analyzed found hitem
    constructor
    · intro answer hanswer uri hclosed
      obtain ⟨k, hk⟩ := List.mem_iff_getElem?.1 hanswer
      obtain ⟨course, hcourse, hdesk, -⟩ := keeps_calm.exists_of_run hmade hstart hk
      rw [hdesk] at hcourse
      exact Board.markedCells_eq_nil (hcourse.rememberedCells_eq_nil hclosed)
    · intro uri findings analyzed found hitem hclosed
      have hfound : found.session.Calm :=
        keeps_calm.found_of_run (fun desk ↦ desk.session.Calm) hmade hstart _ hitem
      cases hbegin : found.begin? uri analyzed with
      | none =>
        rw [Desk.project_of_none findings hbegin]
        exact ⟨rfl, rfl⟩
      | some begun =>
        obtain ⟨pass, begun⟩ := begun
        have hinner : ∀ item ∈ findings.made begun, item ∈
            Desk.made ⟨start language delimiter publishes, []⟩ requests := by
          intro item hinner
          apply Desk.made_subset hitem
          rw [Request.made_project_of_begin findings hbegin]
          exact List.mem_cons_of_mem _ hinner
        have hread := keeps_calm.through ⟨begun, [], []⟩ findings pass
          (fun item h ↦ hmade item (hinner item h)) (hfound.begin hbegin)
        have hnil := (hfound.project hbegin (fun item h ↦ hclear item (hinner item h)) hread
          (hstays uri findings analyzed found hitem)).2 hclosed
        refine ⟨hnil, ?_⟩
        rw [Desk.project_of_begin findings hbegin, Desk.land_diagnostics] at hnil
        rw [Desk.project_of_begin findings hbegin, Desk.sentIn_land, hnil, sent_nil]

/-- The request opens a notebook. -/
def Request.opensNotebook : Request → Bool
  | .call (.openNotebook _ _) => true
  | _ => false

/-- A notebook is closed while findings in it are read. -/
def closedMeanwhile : List Request :=
  [.call (.openNotebook "u" [⟨"c", ['a', feed], 0⟩]),
    .project "u" (.request (.call (.closeNotebook "u"))
      (.finding ⟨"r", "m", some (.of 1 0 1 1), none, [], []⟩ .done)) none]

/-- A notebook that is closed in the course of its projection stays clear. -/
theorem stays_clear_closedMeanwhile :
    (∀ answer ∈ Desk.run .blank closedMeanwhile, ∀ uri,
        answer.desk.session.workspace.get? uri = none →
          answer.desk.session.board.markedCells uri = []) ∧
      ∀ uri findings analyzed found,
        (Request.project uri findings analyzed, found) ∈ Desk.made .blank closedMeanwhile →
        (found.project uri findings analyzed).value.2.session.workspace.get? uri = none →
          (found.project uri findings analyzed).value.1 = [] ∧
            sentIn (found.project uri findings analyzed).events = [] := by
  have hclear : ∀ item ∈ Desk.made .blank closedMeanwhile, item.1.clearsBoard = false := by
    decide
  have hopens : ∀ item ∈ Desk.made .blank closedMeanwhile,
      item.1.opensNotebook = true → item.2.session.workspace.notebooks = [] := by
    decide
  refine (stays_clear_iff Notebook.standardLanguage .default true hclear).2 ?_
  rintro uri findings analyzed found hitem ⟨_, pass, begun, -, -, hbegin, hreplaces, -⟩
  obtain ⟨cells, desk, notebook, hopened, -, hopen, -⟩ := hreplaces
  have hinner : (Request.call (.openNotebook uri cells), desk) ∈
      (Request.project uri findings analyzed).made found := by
    rw [Request.made_project_of_begin findings hbegin]
    exact List.mem_cons_of_mem _ hopened
  have hnone := hopens _ (Desk.made_subset hitem hinner) rfl
  rw [Workspace.get?, hnone] at hopen
  simp at hopen

/-- While findings in a notebook are read, it is opened over, and the new one closed. -/
def replacedMeanwhile : List Request :=
  [.call (.openNotebook "u" [⟨"c", ['a', feed], 0⟩]),
    .project "u" (.request (.call (.openNotebook "u" [⟨"c", ['a', feed], 0⟩]))
      (.request (.call (.closeNotebook "u"))
        (.finding ⟨"r", "m", some (.of 1 0 1 1), none, [], []⟩ .done))) none]

/-- A notebook that is opened again and closed in the course of a projection is marked after it. -/
theorem marked_of_closed_replacedMeanwhile :
    (∀ item ∈ Desk.made .blank replacedMeanwhile, item.1.clearsBoard = false) ∧
    ∃ answer ∈ Desk.run .blank replacedMeanwhile,
      answer.desk.session.workspace.get? "u" = none ∧
        "c" ∈ answer.desk.session.board.markedCells "u" := by
  refine ⟨by decide, _, List.mem_cons_of_mem _ List.mem_cons_self, rfl, ?_⟩
  rw [Board.mem_markedCells]
  decide

end Session

end CellWeave
