import CellWeave.Proofs.Pass
/-!
# Stale findings

The version that findings were computed for is compared when their projection begins, and not again
after its stream was read. Since the versions under a uri never go back, the notebook that is open
at the end has that version exactly if no request in the stream changed what is open under the uri.
-/

namespace CellWeave

namespace Workspace

variable {workspace after : Workspace} {uri : String} {notebook : Notebook}

theorem lastVersion_of_open (h : workspace.get? uri = some notebook) :
    workspace.lastVersion uri = notebook.version := by
  rw [lastVersion, h]

theorem lastVersion_congr (hget : after.get? uri = workspace.get? uri)
    (hversions : after.versionsAtClose.get? uri = workspace.versionsAtClose.get? uri) :
    after.lastVersion uri = workspace.lastVersion uri := by
  rw [lastVersion, lastVersion, hget, hversions]

/-- Closing a notebook keeps its version for the next one under its uri. -/
theorem lastVersion_closeNotebook (hopen : workspace.get? uri = some notebook) (other : String) :
    (workspace.closeNotebook uri).value.2.lastVersion other = workspace.lastVersion other := by
  have hget := get?_closeNotebook hopen other
  have hversions : (workspace.closeNotebook uri).value.2.versionsAtClose =
      workspace.versionsAtClose.set uri notebook.version := by
    rw [closeNotebook, hopen]
  by_cases heq : other = uri
  · subst heq
    rw [if_pos rfl] at hget
    rw [lastVersion_of_open hopen, lastVersion, hget, hversions, Table.get?_set, if_pos rfl]
    rfl
  · rw [if_neg heq] at hget
    apply lastVersion_congr hget
    rw [hversions, Table.get?_set, if_neg heq]

end Workspace

namespace Session

/-! ## One uri in the course of steps -/

/-- What is open under a uri, the index it keeps left out. -/
def content (session : Session) (uri : String) : Option Notebook :=
  (session.workspace.get? uri).map fun notebook ↦ { notebook with kept := none }

/-- What a step does to one uri. -/
inductive Move (uri : String) (before after : Session) : Prop where
  | stay (hget : after.workspace.get? uri = before.workspace.get? uri)
    (hlast : after.workspace.lastVersion uri = before.workspace.lastVersion uri)
  | next {notebook changed : Notebook} (hopen : before.workspace.get? uri = some notebook)
    (hnext : notebook.Next changed) (hget : after.workspace.get? uri = some changed)
  | close (hget : after.workspace.get? uri = none)
    (hlast : after.workspace.lastVersion uri = before.workspace.lastVersion uri)
  | openNotebook {opened : Notebook} (hget : after.workspace.get? uri = some opened)
    (hversion : opened.version = before.workspace.lastVersion uri + 1)

variable {session after origin : Session} {call : Call} {sent : CellDiagnostics} {uri : String}
  {notebook : Notebook} {version : Int}

theorem Sound.move_put (h : session.Sound) {changed : Notebook}
    (hopen : session.workspace.get? uri = some notebook) (hnext : notebook.Next changed)
    (other : String) : Move other session (session.put changed) := by
  have hget := h.get?_put hopen hnext other
  by_cases heq : other = uri
  · subst heq
    rw [if_pos rfl] at hget
    exact .next hopen hnext hget
  · rw [if_neg heq] at hget
    exact .stay hget (Workspace.lastVersion_congr hget rfl)

/-- A step moves what is open under a uri on, or leaves it. -/
theorem Sound.move (h : session.Sound) (hstep : Step origin call session sent after)
    (uri : String) : Move uri session after := by
  cases hstep with
  | put hopen hnext => exact h.move_put hopen hnext uri
  | @close _ closed _ hopen _ =>
    have hget := Workspace.get?_closeNotebook hopen uri
    have hlast := Workspace.lastVersion_closeNotebook hopen uri
    by_cases heq : uri = closed
    · rw [if_pos heq] at hget
      exact .close hget hlast
    · rw [if_neg heq] at hget
      exact .stay hget hlast
  | forget hheld => exact .stay rfl rfl
  | @openNotebook _ under _ opened hopened =>
    have hget := Workspace.get?_openNotebook hopened uri
    obtain ⟨_, -, hnotebook, hworkspace⟩ := Workspace.openNotebook_eq_ok hopened
    by_cases heq : uri = under
    · subst heq
      rw [if_pos rfl] at hget
      refine .openNotebook hget ?_
      rw [hnotebook]
    · rw [if_neg heq] at hget
      refine .stay hget (Workspace.lastVersion_congr hget ?_)
      rw [hworkspace]
      exact (Table.get?_erase session.workspace.versionsAtClose under uri).trans (if_neg heq)
  | clear hopen => exact .stay rfl rfl

/-! ## Versions never go back -/

/-- Whatever is open under the uri, now or later, comes after the version. -/
def Past (session : Session) (uri : String) (version : Int) : Prop :=
  version < session.workspace.lastVersion uri ∨
    session.workspace.get? uri = none ∧ version ≤ session.workspace.lastVersion uri

theorem content_eq_some_iff : session.content uri = some notebook ↔
    ∃ current, session.workspace.get? uri = some current ∧
      { current with kept := none } = notebook :=
  Option.map_eq_some_iff

theorem Past.version_ne (h : session.Past uri version)
    (hopen : session.workspace.get? uri = some notebook) : notebook.version ≠ version := by
  rcases h with hlt | ⟨hclosed, -⟩
  · rw [Workspace.lastVersion_of_open hopen] at hlt
    exact Int.ne_of_gt hlt
  · simp [hclosed] at hopen

/-- What is past stays past. -/
theorem Past.move (h : session.Past uri version) (hmove : Move uri session after) :
    after.Past uri version := by
  cases hmove with
  | stay hget hlast => rwa [Past, hget, hlast]
  | next hopen hnext hget =>
    rcases h with hlt | ⟨hclosed, -⟩
    · left
      rw [Workspace.lastVersion_of_open hopen] at hlt
      rw [Workspace.lastVersion_of_open hget]
      cases hnext with
      | index => exact hlt
      | change => exact Int.lt_add_one_of_le (Int.le_of_lt hlt)
    · simp [hclosed] at hopen
  | close hget hlast =>
    right
    rw [hlast]
    rcases h with hlt | ⟨-, hle⟩
    · exact ⟨hget, Int.le_of_lt hlt⟩
    · exact ⟨hget, hle⟩
  | openNotebook hget hversion =>
    left
    rw [Workspace.lastVersion_of_open hget, hversion]
    rcases h with hlt | ⟨-, hle⟩
    · exact Int.lt_add_one_of_le (Int.le_of_lt hlt)
    · exact Int.lt_add_one_of_le hle

/-- A step either leaves an open notebook as it is, but for its index, or goes past its version. -/
theorem Move.content_or_past (hmove : Move uri session after)
    (h : session.content uri = some notebook) :
    after.content uri = some notebook ∨ after.Past uri notebook.version := by
  obtain ⟨current, hcurrent, rfl⟩ := content_eq_some_iff.1 h
  have hlast := Workspace.lastVersion_of_open hcurrent
  cases hmove with
  | stay hget _ => exact .inl (content_eq_some_iff.2 ⟨current, hget.trans hcurrent, rfl⟩)
  | next hopen hnext hget =>
    obtain rfl := Option.some.inj (hopen.symm.trans hcurrent)
    cases hnext with
    | index kept _ => exact .inl (content_eq_some_iff.2 ⟨_, hget, rfl⟩)
    | change cells =>
      refine .inr (.inl ?_)
      rw [Workspace.lastVersion_of_open hget]
      exact Int.lt_succ _
  | close hget hkept => exact .inr (.inr ⟨hget, Int.le_of_eq (hkept.trans hlast).symm⟩)
  | openNotebook hget hversion =>
    refine .inr (.inl ?_)
    rw [Workspace.lastVersion_of_open hget, hversion, hlast]
    exact Int.lt_succ _

theorem Sound.past_trace (hsession : session.Sound) (h : session.Past uri version)
    (htrace : Trace origin call session sent after) : after.Past uri version := by
  induction htrace with
  | refl => exact h
  | step hstep _ ih => exact ih (hsession.step hstep) (h.move (hsession.move hstep uri))

theorem Sound.content_or_past (hsession : session.Sound) (h : session.content uri = some notebook)
    (htrace : Trace origin call session sent after) :
    after.content uri = some notebook ∨ after.Past uri notebook.version := by
  induction htrace with
  | refl => exact .inl h
  | step hstep htrace ih =>
    rcases (hsession.move hstep uri).content_or_past h with h | h
    · exact ih (hsession.step hstep) h
    · exact .inr ((hsession.step hstep).past_trace h htrace)

/-! ## What a stream changes -/

/-- None of the calls among the requests changes what is open under the uri. -/
def Spares (items : List (Request × Desk)) (uri : String) : Prop :=
  ∀ call found, (Request.call call, found) ∈ items →
    (found.call call).desk.session.content uri = found.session.content uri

theorem spares_concat_call_iff {items : List (Request × Desk)} {found : Desk} :
    Spares (items ++ [(.call call, found)]) uri ↔ Spares items uri ∧
      (found.call call).desk.session.content uri = found.session.content uri := by
  constructor
  · intro h
    refine ⟨fun other desk hmem ↦ h other desk (List.mem_append_left _ hmem), ?_⟩
    exact h call found List.mem_concat_self
  · rintro ⟨hitems, hcall⟩ other desk hmem
    rcases List.mem_append.1 hmem with hmem | hmem
    · exact hitems other desk hmem
    · obtain ⟨⟨rfl⟩, rfl⟩ := Prod.mk.inj (List.mem_singleton.1 hmem)
      exact hcall

/-- A projection spares a notebook, as it changes no content. -/
theorem spares_concat_project_iff {items : List (Request × Desk)} {found : Desk} {under : String}
    {findings : Stream} {analyzed : Option Int} :
    Spares (items ++ [(.project under findings analyzed, found)]) uri ↔ Spares items uri := by
  simp [Spares]

/-- Either the requests spared the notebook, or its version is past. -/
inductive Drift (items : List (Request × Desk)) (uri : String) (notebook : Notebook)
    (session : Session) : Prop where
  | spared (hspares : Spares items uri) (hcontent : session.content uri = some notebook)
  | changed (hspares : ¬ Spares items uri) (hpast : session.Past uri notebook.version)

/-- A projection that begins changes the kept index only. -/
theorem Sound.content_begin {desk begun : Desk} (h : desk.session.Sound) {analyzed : Option Int}
    {pass : Pass} (hbegin : desk.begin? uri analyzed = some (pass, begun)) (other : String) :
    begun.session.content other = desk.session.content other := by
  obtain ⟨notebook, hopen, -, -, -, rfl⟩ := Desk.begin_eq_some hbegin
  rw [content, content, h.get?_put hopen (Notebook.next_readIndex notebook)]
  split
  · next heq =>
    subst heq
    rw [hopen, Option.map_some, Option.map_some, Option.some.injEq, Notebook.readIndex]
    split <;> rfl
  · rfl

theorem Drift.after_call {items : List (Request × Desk)} {desk : Desk}
    (h : Drift items uri notebook desk.session) (hsession : desk.session.Sound) (call : Call) :
    Drift (items ++ [(.call call, desk)]) uri notebook (desk.call call).desk.session := by
  have htrace := Desk.trace_call desk call
  cases h with
  | spared hspares hcontent =>
    rcases hsession.content_or_past hcontent htrace with hsame | hpast
    · exact .spared (spares_concat_call_iff.2 ⟨hspares, hsame.trans hcontent.symm⟩) hsame
    · refine .changed ?_ hpast
      rw [spares_concat_call_iff, hcontent, content_eq_some_iff]
      rintro ⟨-, current, hopen, rfl⟩
      exact hpast.version_ne hopen rfl
  | changed hspares hpast =>
    refine .changed ?_ (hsession.past_trace hpast htrace)
    rw [spares_concat_call_iff]
    exact fun h ↦ hspares h.1

/-- Requests at any depth keep the content or leave its version behind. -/
theorem keeps_drift (G : Request × Desk → Prop) (uri : String) (notebook : Notebook) :
    Course.Keeps G fun course ↦ course.desk.session.Sound ∧
      Drift course.made uri notebook course.desk.session where
  call course call _ h := by
    refine ⟨h.1.trace (Desk.trace_call course.desk call), ?_⟩
    exact h.2.after_call h.1 call
  pass_over course under findings analyzed _ h := by
    refine ⟨h.1, ?_⟩
    cases h.2 with
    | spared hspares hcontent => exact .spared (spares_concat_project_iff.2 hspares) hcontent
    | changed hspares hpast => exact .changed (mt spares_concat_project_iff.1 hspares) hpast
  begin course under findings analyzed pass begun hbegin _ h := by
    refine ⟨h.1.begin hbegin, ?_⟩
    cases h.2 with
    | spared hspares hcontent =>
      refine .spared (spares_concat_project_iff.2 hspares) ?_
      exact (h.1.content_begin hbegin uri).trans hcontent
    | changed hspares hpast =>
      refine .changed (mt spares_concat_project_iff.1 hspares) ?_
      obtain ⟨current, hopen, -, -, -, rfl⟩ := Desk.begin_eq_some hbegin
      exact hpast.move (h.1.move_put hopen (Notebook.next_readIndex current) uri)
  land _ _ _ _ _ _ _ _ _ hread := by
    refine ⟨hread.1.finish _, ?_⟩
    cases hread.2 with
    | spared hspares hcontent => exact .spared hspares hcontent
    | changed hspares hpast => exact .changed hspares hpast

/-! ## Ends of projections -/

/-- The stream of a projection spares the notebook that it began for or goes past it. -/
theorem Sound.drift_of_begin {desk begun : Desk} (h : desk.session.Sound) (findings : Stream)
    {analyzed : Option Int} {pass : Pass} (hopen : desk.session.workspace.get? uri = some notebook)
    (hbegin : desk.begin? uri analyzed = some (pass, begun)) :
    Drift (findings.made begun) uri { notebook with kept := none }
      (findings.handle pass begun).desk.session := by
  have hcontent : begun.session.content uri = some { notebook with kept := none } :=
    (h.content_begin hbegin uri).trans (content_eq_some_iff.2 ⟨notebook, hopen, rfl⟩)
  have hkeeps := keeps_drift (fun _ ↦ True) uri { notebook with kept := none }
  exact (hkeeps.through ⟨begun, [], []⟩ findings pass (fun _ _ ↦ trivial)
    ⟨h.begin hbegin, .spared nofun hcontent⟩).2

/-- What gives or sends something began with the index of the notebook that was open at the version
that its findings were computed for. At its end that version is open exactly if no request in its
stream changed what is open under the uri, and then the cells are those of the index. -/
theorem fresh_iff_spares (language : Text) (delimiter : Delimiter) (publishes : Bool)
    {requests : List Request} {uri : String} {findings : Stream} {version : Int} {found : Desk}
    (hmade : (Request.project uri findings (some version), found) ∈
      Desk.made ⟨start language delimiter publishes, []⟩ requests)
    (hgives : (found.project uri findings (some version)).value.1 ≠ [] ∨
      sentIn (found.project uri findings (some version)).events ≠ []) :
    ∃ notebook pass begun, found.session.workspace.get? uri = some notebook ∧
      notebook.version = version ∧ found.begin? uri (some version) = some (pass, begun) ∧
      pass.index = notebook.index ∧
      ((∃ current, (found.project uri findings (some version)).value.2.session.workspace.get? uri =
          some current ∧ current.version = version) ↔ Spares (findings.made begun) uri) ∧
      ∀ current, (found.project uri findings (some version)).value.2.session.workspace.get? uri =
          some current → current.version = version →
        current.cells = notebook.cells ∧ current.index = pass.index := by
  have hfound : found.session.Sound := (keeps_sound fun _ ↦ True).found_of_run
    (fun desk ↦ desk.session.Sound) (fun _ _ ↦ trivial)
    (sound_start language delimiter publishes) _ hmade
  cases hbegin : found.begin? uri (some version) with
  | none =>
    rw [Desk.project_of_none findings hbegin] at hgives
    simp at hgives
  | some begun =>
    obtain ⟨pass, begun⟩ := begun
    obtain ⟨notebook, hopen, hversion, -, hpass, -⟩ := hfound.concerns_of_begin hbegin
    obtain rfl := hversion version rfl
    refine ⟨notebook, pass, begun, hopen, rfl, rfl, hpass.index_eq, ?_⟩
    rw [Desk.project_of_begin findings hbegin, Desk.land_session, hpass.index_eq]
    dsimp only
    cases hfound.drift_of_begin findings hopen hbegin with
    | spared hspares hcontent =>
      obtain ⟨kept, hkept, hsame⟩ := content_eq_some_iff.1 hcontent
      obtain ⟨-, hdelimiter, -, hversion, htable, -⟩ := Notebook.mk.inj hsame
      have hcells : kept.cells = notebook.cells := congrArg CellTable.ordered htable
      constructor
      · exact ⟨fun _ ↦ hspares, fun _ ↦ ⟨kept, hkept, hversion⟩⟩
      · intro current hcurrent _
        obtain rfl := Option.some.inj (hkept.symm.trans hcurrent)
        refine ⟨hcells, ?_⟩
        rw [Notebook.index, Notebook.index, hcells, hversion, hdelimiter]
    | changed hspares hpast =>
      constructor
      · refine ⟨?_, fun h ↦ absurd h hspares⟩
        rintro ⟨current, hcurrent, hversion⟩
        exact absurd hversion (hpast.version_ne hcurrent)
      · intro current hcurrent hversion
        exact absurd hversion (hpast.version_ne hcurrent)

def opening : Call :=
  .openNotebook "u" [⟨"c", ['a', feed], 0⟩]

/-- A notebook was opened in a session that had just started. -/
def openedOnce : Desk :=
  (Desk.call .blank opening).desk

theorem sound_openedOnce : openedOnce.session.Sound :=
  (sound_start Notebook.standardLanguage .default true).trace (Desk.trace_call .blank opening)

/-- The document is asked for before a finding in it comes. -/
def documentRead : Stream :=
  .request (.call (.document "u")) (.finding ⟨"r", "m", some (.of 1 0 1 1), none, [], []⟩ .done)

/-- Reading the document in the course of a projection leaves it fresh. -/
theorem spares_documentRead :
    (Request.project "u" documentRead (some 1), openedOnce) ∈
        Desk.made .blank [.call opening, .project "u" documentRead (some 1)] ∧
      (openedOnce.project "u" documentRead (some 1)).value.1 ≠ [] ∧
      ∃ pass begun, openedOnce.begin? "u" (some 1) = some (pass, begun) ∧
        Spares (documentRead.made begun) "u" := by
  have hmade : (Request.project "u" documentRead (some 1), openedOnce) ∈
      Desk.made .blank [.call opening, .project "u" documentRead (some 1)] :=
    List.mem_cons_of_mem _ List.mem_cons_self
  have hgives : (openedOnce.project "u" documentRead (some 1)).value.1 ≠ [] :=
    sound_openedOnce.project_ne_nil documentRead rfl (by decide) rfl (by decide)
  obtain ⟨_, pass, begun, -, -, hbegin, -, hfresh, -⟩ :=
    fresh_iff_spares Notebook.standardLanguage .default true hmade (.inl hgives)
  exact ⟨hmade, hgives, pass, begun, hbegin, hfresh.1 ⟨_, rfl, rfl⟩⟩

/-- Before a finding in the cell comes, another cell is inserted above it. -/
def cellInserted : Stream :=
  .request (.call (.changeStructure "u" [(0, ⟨"d", ['b', feed], 0⟩)] []))
    (.finding ⟨"r", "m", some (.of 1 0 1 1), none, [], []⟩ .done)

/-- What is given was computed for the first version, and the second one is open. -/
theorem stale_cellInserted :
    (Request.project "u" cellInserted (some 1), openedOnce) ∈
        Desk.made .blank [.call opening, .project "u" cellInserted (some 1)] ∧
      (openedOnce.project "u" cellInserted (some 1)).value.1 ≠ [] ∧
      ∃ current, (openedOnce.project "u" cellInserted (some 1)).value.2.session.workspace.get? "u" =
        some current ∧ current.version = 2 := by
  refine ⟨List.mem_cons_of_mem _ List.mem_cons_self, ?_, _, rfl, rfl⟩
  exact sound_openedOnce.project_ne_nil cellInserted rfl (by decide) rfl (by decide)

end Session

end CellWeave
