import CellWeave.Proofs.Pass
/-!
# What becomes of an open notebook

A notebook that is open when a projection begins is at its end still open, or retired, or lost: it
was neither closed nor kept, since another was opened in its place. Only the last leaves a notebook
that is neither open nor retired, and it happens exactly if one of the requests in the stream opens
a notebook over it.
-/

namespace CellWeave

namespace Session

/-- One of the requests opens a notebook over the one with this incarnation. -/
def Replaces (items : List (Request × Desk)) (uri : String) (incarnation : Nat) : Prop :=
  ∃ cells found notebook, (Request.call (.openNotebook uri cells), found) ∈ items ∧
    (cells.map (·.uri)).Nodup ∧
    found.session.workspace.get? uri = some notebook ∧ notebook.incarnation = incarnation

/-- No open notebook was retired. -/
structure Tidy (session : Session) : Prop where
  sound : session.Sound
  not_retired {uri : String} {notebook : Notebook}
    (h : session.workspace.get? uri = some notebook) :
    notebook.incarnation ∉ session.board.retired

variable {session after origin : Session} {call : Call} {sent : CellDiagnostics} {uri : String}
  {notebook : Notebook}

/-- Steps of calls that do not clear the board keep a session tidy. -/
theorem Tidy.step (h : session.Tidy) (hcall : (Request.call call).clearsBoard = false)
    (hstep : Step origin call session sent after) : after.Tidy := by
  refine ⟨h.sound.step hstep, ?_⟩
  intro other found hfound
  cases hstep with
  | put hopen hnext =>
    rw [h.sound.get?_put hopen hnext] at hfound
    split at hfound
    · obtain rfl := Option.some.inj hfound
      rw [hnext.incarnation_eq]
      exact h.not_retired hopen
    · exact h.not_retired hfound
  | @close _ uri closed hopen _ =>
    rw [Workspace.get?_closeNotebook hopen] at hfound
    split at hfound
    · simp at hfound
    · next hne =>
      rw [Board.mem_retired_clear, not_or]
      refine ⟨fun heq ↦ hne ?_, h.not_retired hfound⟩
      exact h.sound.uri_eq_of_incarnation_eq hfound hopen heq
  | forget hheld => exact h.not_retired hfound
  | openNotebook hopened =>
    rw [Workspace.get?_openNotebook hopened] at hfound
    split at hfound
    · obtain rfl := Option.some.inj hfound
      intro hmem
      have hlt := h.sound.retired_lt hmem
      obtain ⟨_, -, hnotebook, -⟩ := Workspace.openNotebook_eq_ok hopened
      rw [hnotebook] at hlt
      exact Nat.lt_irrefl _ hlt
    · exact h.not_retired hfound
  | clear hopen => simp [Request.clearsBoard] at hcall

theorem Tidy.trace (h : session.Tidy) (hcall : (Request.call call).clearsBoard = false)
    (htrace : Trace origin call session sent after) : after.Tidy := by
  induction htrace with
  | refl => exact h
  | step hstep _ ih => exact ih (h.step hcall hstep)

theorem Tidy.begin {desk begun : Desk} (h : desk.session.Tidy) {analyzed : Option Int}
    {pass : Pass} (hbegin : desk.begin? uri analyzed = some (pass, begun)) :
    begun.session.Tidy := by
  obtain ⟨notebook, hopen, -, -, -, rfl⟩ := Desk.begin_eq_some hbegin
  refine ⟨h.sound.put hopen (Notebook.next_readIndex notebook), ?_⟩
  intro other found hfound
  rw [h.sound.get?_put hopen (Notebook.next_readIndex notebook)] at hfound
  split at hfound
  · obtain rfl := Option.some.inj hfound
    rw [Notebook.incarnation_readIndex]
    exact h.not_retired hopen
  · exact h.not_retired hfound

theorem Tidy.finish (h : session.Tidy) (pass : Pass) :
    Tidy { session with board := (session.board.finish pass).value.2 } := by
  refine ⟨h.sound.finish pass, fun hopen ↦ ?_⟩
  rw [Board.retired_finish]
  exact h.not_retired hopen

theorem keeps_tidy : Course.Keeps (fun item ↦ item.1.clearsBoard = false)
    fun course ↦ course.desk.session.Tidy where
  call course call hmade h := h.trace hmade (Desk.trace_call course.desk call)
  pass_over _ _ _ _ _ h := h
  begin _ _ _ _ _ _ hbegin _ h := h.begin hbegin
  land _ _ _ _ _ _ _ _ _ hread := hread.finish _

theorem replaces_concat_iff {items : List (Request × Desk)} {request : Request} {found : Desk}
    {incarnation : Nat} : Replaces (items ++ [(request, found)]) uri incarnation ↔
      Replaces items uri incarnation ∨ Replaces [(request, found)] uri incarnation := by
  simp only [Replaces, List.mem_append]
  constructor
  · rintro ⟨cells, desk, notebook, hmem | hmem, h⟩
    · exact .inl ⟨cells, desk, notebook, hmem, h⟩
    · exact .inr ⟨cells, desk, notebook, hmem, h⟩
  · rintro (⟨cells, desk, notebook, hmem, h⟩ | ⟨cells, desk, notebook, hmem, h⟩)
    · exact ⟨cells, desk, notebook, .inl hmem, h⟩
    · exact ⟨cells, desk, notebook, .inr hmem, h⟩

/-- What has become of the notebook with an incarnation that was open under a uri. -/
inductive Fate (items : List (Request × Desk)) (uri : String) (incarnation : Nat)
    (session : Session) : Prop where
  | stays (notebook : Notebook) (hopen : session.workspace.get? uri = some notebook)
    (heq : notebook.incarnation = incarnation) (hkept : ¬ Replaces items uri incarnation)
  | retired (hretired : incarnation ∈ session.board.retired)
    (hkept : ¬ Replaces items uri incarnation)
  | replaced (hreplaced : Replaces items uri incarnation)
    (hlt : incarnation < session.workspace.opened)
    (hretired : incarnation ∉ session.board.retired)
    (hgone : ∀ other notebook, session.workspace.get? other = some notebook →
      notebook.incarnation ≠ incarnation)

variable {items : List (Request × Desk)} {incarnation : Nat}

theorem Fate.congr {items' : List (Request × Desk)} (h : Fate items uri incarnation session)
    (hitems : Replaces items' uri incarnation ↔ Replaces items uri incarnation) :
    Fate items' uri incarnation session := by
  cases h with
  | stays notebook hopen heq hkept => exact .stays notebook hopen heq (mt hitems.1 hkept)
  | retired hretired hkept => exact .retired hretired (mt hitems.1 hkept)
  | replaced hreplaced hlt hretired hgone => exact .replaced (hitems.2 hreplaced) hlt hretired hgone

theorem Fate.put (h : Fate items uri incarnation session) (hsession : session.Sound)
    {other : String} {changed : Notebook} (hopen : session.workspace.get? other = some notebook)
    (hnext : notebook.Next changed) : Fate items uri incarnation (session.put changed) := by
  have hget := hsession.get?_put hopen hnext
  cases h with
  | stays found hfound heq hkept =>
    by_cases huri : uri = other
    · subst huri
      obtain rfl := Option.some.inj (hopen.symm.trans hfound)
      refine .stays changed ?_ (hnext.incarnation_eq.trans heq) hkept
      rw [hget, if_pos rfl]
    · refine .stays found ?_ heq hkept
      rw [hget, if_neg huri]
      exact hfound
  | retired hretired hkept => exact .retired hretired hkept
  | replaced hreplaced hlt hretired hgone =>
    refine .replaced hreplaced hlt hretired ?_
    intro third found hfound
    rw [hget] at hfound
    split at hfound
    · obtain rfl := Option.some.inj hfound
      rw [hnext.incarnation_eq]
      exact hgone other notebook hopen
    · exact hgone third found hfound

/-- Closing a notebook retires it, and does nothing to the others. -/
theorem Fate.close (h : Fate items uri incarnation session) {other : String}
    (hopen : session.workspace.get? other = some notebook) :
    Fate items uri incarnation { session with
      workspace := (session.workspace.closeNotebook other).value.2
      board := (session.board.clear notebook).value.2 } := by
  have hget := Workspace.get?_closeNotebook hopen
  cases h with
  | stays found hfound heq hkept =>
    by_cases huri : uri = other
    · subst huri
      obtain rfl := Option.some.inj (hopen.symm.trans hfound)
      exact .retired (Board.mem_retired_clear.2 (.inl heq.symm)) hkept
    · refine .stays found ?_ heq hkept
      rw [hget, if_neg huri]
      exact hfound
  | retired hretired hkept => exact .retired (Board.mem_retired_clear.2 (.inr hretired)) hkept
  | replaced hreplaced hlt hretired hgone =>
    refine .replaced hreplaced ?_ ?_ ?_
    · rwa [Workspace.opened_closeNotebook]
    · rw [Board.mem_retired_clear, not_or]
      exact ⟨(hgone other notebook hopen).symm, hretired⟩
    · intro third found hfound
      rw [hget] at hfound
      split at hfound
      · simp at hfound
      · exact hgone third found hfound

/-- The fate of a notebook goes on with every step. -/
theorem Fate.step (h : Fate items uri incarnation session) (hsession : session.Sound)
    (hcall : (Request.call call).clearsBoard = false)
    (hopens : ∀ other cells, call ≠ .openNotebook other cells)
    (hstep : Step origin call session sent after) : Fate items uri incarnation after := by
  cases hstep with
  | put hopen hnext => exact h.put hsession hopen hnext
  | close hopen _ => exact h.close hopen
  | forget hheld =>
    cases h with
    | stays found hfound heq hkept => exact .stays found hfound heq hkept
    | retired hretired hkept => exact .retired hretired hkept
    | replaced hreplaced hlt hretired hgone => exact .replaced hreplaced hlt hretired hgone
  | openNotebook hopened => exact absurd rfl (hopens _ _)
  | clear hopen => simp [Request.clearsBoard] at hcall

theorem Fate.trace (h : Fate items uri incarnation session) (hsession : session.Sound)
    (hcall : (Request.call call).clearsBoard = false)
    (hopens : ∀ other cells, call ≠ .openNotebook other cells)
    (htrace : Trace origin call session sent after) : Fate items uri incarnation after := by
  induction htrace with
  | refl => exact h
  | step hstep _ ih => exact ih (h.step hsession hcall hopens hstep) (hsession.step hstep)

/-- An opening replaces what is open under its uri, unless a uri comes twice among its cells. -/
theorem replaces_openNotebook_iff {desk : Desk} {other : String} {cells : List Cell} :
    Replaces [(.call (.openNotebook other cells), desk)] uri incarnation ↔
      (cells.map (·.uri)).Nodup ∧ other = uri ∧
        ∃ notebook, desk.session.workspace.get? uri = some notebook ∧
          notebook.incarnation = incarnation := by
  constructor
  · rintro ⟨cells', found, notebook, hmem, hcells, hopen, heq⟩
    simp only [List.mem_singleton, Prod.mk.injEq, Request.call.injEq,
      Call.openNotebook.injEq] at hmem
    obtain ⟨⟨rfl, rfl⟩, rfl⟩ := hmem
    exact ⟨hcells, rfl, notebook, hopen, heq⟩
  · rintro ⟨hcells, rfl, notebook, hopen, heq⟩
    exact ⟨cells, desk, notebook, List.mem_singleton_self _, hcells, hopen, heq⟩

/-- The notebook that is opened is a new one, so what was not open elsewhere is not open at all. -/
theorem incarnation_ne_of_openNotebook {other : String} {cells : List Cell}
    {opened : Traced (Notebook × Workspace)}
    (hopened : session.workspace.openNotebook other cells = .ok opened)
    (hlt : incarnation < session.workspace.opened)
    (hbefore : ∀ third notebook, third ≠ other →
      session.workspace.get? third = some notebook → notebook.incarnation ≠ incarnation)
    (third : String) (notebook : Notebook) (hopen : opened.value.2.get? third = some notebook) :
    notebook.incarnation ≠ incarnation := by
  obtain ⟨_, -, hnotebook, -⟩ := Workspace.openNotebook_eq_ok hopened
  rw [Workspace.get?_openNotebook hopened] at hopen
  split at hopen
  · obtain rfl := Option.some.inj hopen
    rw [hnotebook]
    exact (Nat.ne_of_lt hlt).symm
  · next hne => exact hbefore third notebook hne hopen

/-- A notebook is opened under a uri in the place of the one that is open there, if there is one. -/
theorem Fate.openNotebook {desk : Desk} (h : Fate items uri incarnation desk.session)
    (hsession : desk.session.Tidy) (other : String) (cells : List Cell) :
    Fate (items ++ [(.call (.openNotebook other cells), desk)]) uri incarnation
      (desk.call (.openNotebook other cells)).desk.session := by
  rw [Desk.session_call_openNotebook]
  cases hopened : desk.session.workspace.openNotebook other cells with
  | error error =>
    apply h.congr
    rw [replaces_concat_iff, replaces_openNotebook_iff, or_iff_left]
    exact fun hreplaces ↦ Workspace.openNotebook_eq_error hopened hreplaces.1
  | ok opened =>
    obtain ⟨table, rfl, -, hworkspace⟩ := Workspace.openNotebook_eq_ok hopened
    have hcount : opened.value.2.opened = desk.session.workspace.opened + 1 := by
      rw [hworkspace]
    cases h with
    | stays notebook hopen heq hkept =>
      have hlt := hsession.sound.incarnation_lt hopen
      rw [heq] at hlt
      by_cases huri : other = uri
      · refine .replaced ?_ ?_ ?_ (incarnation_ne_of_openNotebook hopened hlt ?_)
        · exact replaces_concat_iff.2 (.inr
            (replaces_openNotebook_iff.2 ⟨table.nodup_uris, huri, notebook, hopen, heq⟩))
        · rw [hcount]
          exact Nat.lt_succ_of_lt hlt
        · rw [← heq]
          exact hsession.not_retired hopen
        · intro third found hne hfound hsame
          apply hne
          rw [huri]
          exact hsession.sound.uri_eq_of_incarnation_eq hfound hopen (hsame.trans heq.symm)
      · refine .stays notebook ?_ heq ?_
        · rw [Workspace.get?_openNotebook hopened, if_neg (Ne.symm huri)]
          exact hopen
        · rw [replaces_concat_iff, replaces_openNotebook_iff]
          rintro (hbefore | ⟨-, heq', -⟩)
          · exact hkept hbefore
          · exact huri heq'
    | retired hretired hkept =>
      refine .retired hretired ?_
      rw [replaces_concat_iff, replaces_openNotebook_iff]
      rintro (hbefore | ⟨-, -, notebook, hopen, rfl⟩)
      · exact hkept hbefore
      · exact hsession.not_retired hopen hretired
    | replaced hreplaced hlt hretired hbefore =>
      refine .replaced (replaces_concat_iff.2 (.inl hreplaced)) ?_ hretired
        (incarnation_ne_of_openNotebook hopened hlt fun third notebook _ ↦ hbefore third notebook)
      rw [hcount]
      exact Nat.lt_succ_of_lt hlt

theorem not_replaces_singleton {request : Request} {found : Desk}
    (h : ∀ other cells, request ≠ .call (.openNotebook other cells)) :
    ¬ Replaces [(request, found)] uri incarnation := by
  rintro ⟨cells, desk, notebook, hmem, -⟩
  rw [List.mem_singleton, Prod.mk.injEq] at hmem
  exact h uri cells hmem.1.symm

theorem Fate.note (h : Fate items uri incarnation session) {request : Request} {found : Desk}
    (hopens : ∀ other cells, request ≠ .call (.openNotebook other cells)) :
    Fate (items ++ [(request, found)]) uri incarnation session := by
  apply h.congr
  rw [replaces_concat_iff, or_iff_left (not_replaces_singleton hopens)]

theorem Fate.finish (h : Fate items uri incarnation session) (pass : Pass) :
    Fate items uri incarnation
      { session with board := (session.board.finish pass).value.2 } := by
  cases h with
  | stays notebook hopen heq hkept => exact .stays notebook hopen heq hkept
  | retired hretired hkept => exact .retired (by rwa [Board.retired_finish]) hkept
  | replaced hreplaced hlt hretired hgone =>
    exact .replaced hreplaced hlt (by rwa [Board.retired_finish]) hgone

/-- Requests at any depth go on with the fate of a notebook. -/
theorem keeps_fate (uri : String) (incarnation : Nat) :
    Course.Keeps (fun item ↦ item.1.clearsBoard = false) fun course ↦
      course.desk.session.Tidy ∧ Fate course.made uri incarnation course.desk.session where
  call course call hmade h := by
    refine ⟨keeps_tidy.call course call hmade h.1, ?_⟩
    rw [Course.after, Request.made]
    by_cases hopens : ∃ other cells, call = .openNotebook other cells
    · obtain ⟨other, cells, rfl⟩ := hopens
      exact h.2.openNotebook h.1 other cells
    · push Not at hopens
      have hfate := h.2.trace h.1.sound hmade hopens (Desk.trace_call course.desk call)
      exact hfate.note (by simpa using hopens)
  pass_over _ _ _ _ _ h := ⟨h.1, h.2.note nofun⟩
  begin course uri findings analyzed pass begun hbegin hmade h := by
    refine ⟨h.1.begin hbegin, ?_⟩
    obtain ⟨notebook, hopen, -, -, -, rfl⟩ := Desk.begin_eq_some hbegin
    exact (h.2.put h.1.sound hopen (Notebook.next_readIndex notebook)).note nofun
  land _ _ _ _ _ _ _ _ _ hread := ⟨hread.1.finish _, hread.2.finish _⟩

/-- The fate of the notebook that a projection began for, at the end of its stream. -/
theorem Tidy.fate_of_begin {desk begun : Desk} (h : desk.session.Tidy) {analyzed : Option Int}
    {pass : Pass} (findings : Stream) (hopen : desk.session.workspace.get? uri = some notebook)
    (hbegin : desk.begin? uri analyzed = some (pass, begun))
    (hmade : ∀ item ∈ findings.made begun, item.1.clearsBoard = false) :
    (findings.handle pass begun).desk.session.Tidy ∧
      Fate (findings.made begun) uri notebook.incarnation
        (findings.handle pass begun).desk.session := by
  have hbegun := h.begin hbegin
  have hstays : Fate [] uri notebook.incarnation begun.session := by
    obtain ⟨found, hfound, -, -, -, rfl⟩ := Desk.begin_eq_some hbegin
    obtain rfl := Option.some.inj (hopen.symm.trans hfound)
    refine .stays notebook.readIndex.value.2 ?_ (Notebook.incarnation_readIndex notebook) ?_
    · rw [h.sound.get?_put hopen (Notebook.next_readIndex notebook), if_pos rfl]
    · rintro ⟨cells, found, other, hmem, -⟩
      exact List.not_mem_nil hmem
  exact (keeps_fate uri notebook.incarnation).through ⟨begun, [], []⟩ findings pass hmade
    ⟨hbegun, hstays⟩

end Session

end CellWeave
