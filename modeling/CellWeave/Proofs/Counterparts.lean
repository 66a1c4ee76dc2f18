import CellWeave.Proofs.View
/-!
# Sessions that one uri cannot tell apart

Two sessions may have different notebooks open under other uris, and have opened more or fewer of
them. A request under a uri that sees the same of both has the same outcome in both: the same
answer, the same events, and the same to be seen afterwards.
-/

namespace CellWeave

theorem Workspace.openNotebook_of_ok {cells : List Cell} {table : CellTable}
    (h : CellTable.of cells = .ok table) (workspace : Workspace) (uri : String) :
    ∃ opened, workspace.openNotebook uri cells = .ok opened ∧
      opened.log = workspace.openLog uri cells.length := by
  obtain rfl := CellTable.of_eq_ok_iff.1 h
  rw [openNotebook, Notebook.replaceCells, h]
  exact ⟨_, rfl, rfl⟩

theorem Workspace.openNotebook_of_error {cells : List Cell} {error : SyncError}
    (h : CellTable.of cells = .error error) (workspace : Workspace) (uri : String) :
    workspace.openNotebook uri cells = .error error := by
  rw [openNotebook, Notebook.replaceCells, h]
  rfl

namespace Session

/-- The notebooks that are open under a uri in two sessions which look the same from it. -/
structure Counterparts (first second : Session) (uri : String) (notebook : Notebook)
    (incarnation : Nat) : Prop where
  view_eq : first.view uri = second.view uri
  uri_eq : notebook.uri = uri
  open_first : first.workspace.get? uri = some notebook
  open_second : second.workspace.get? uri = some (notebook.renumber incarnation)

section Counterparts

variable {first second : Session} {uri : String} {notebook changed : Notebook} {incarnation : Nat}

/-- Sessions that look alike under a uri have both no notebook there, or alike ones. -/
theorem none_or_counterparts (h : first.Sound) (hview : first.view uri = second.view uri) :
    first.workspace.get? uri = none ∧ second.workspace.get? uri = none ∨
      ∃ notebook incarnation, Counterparts first second uri notebook incarnation := by
  have hnotebook := congrArg View.notebook hview
  simp only [view] at hnotebook
  cases hfirst : first.workspace.get? uri with
  | none =>
    rw [hfirst] at hnotebook
    exact .inl ⟨rfl, Option.map_eq_none_iff.1 hnotebook.symm⟩
  | some notebook =>
    rw [hfirst] at hnotebook
    obtain ⟨other, hsecond, hother⟩ := Option.map_eq_some_iff.1 hnotebook.symm
    have hrenumber := Notebook.eq_renumber_of_renumber_eq hother.symm
    refine .inr ⟨notebook, other.incarnation, hview, h.uri_eq hfirst, hfirst, ?_⟩
    rwa [← hrenumber]

namespace Counterparts

theorem hasRetired_eq (h : Counterparts first second uri notebook incarnation) :
    first.board.hasRetired notebook.incarnation = second.board.hasRetired incarnation := by
  have hretired := congrArg View.isRetired h.view_eq
  simpa [view, h.open_first, h.open_second, Notebook.renumber] using hretired

theorem remembered_eq (h : Counterparts first second uri notebook incarnation) :
    first.board.remembered.get? uri = second.board.remembered.get? uri :=
  congrArg View.remembered h.view_eq

/-- Both notebooks are changed in one way. -/
theorem put (h : Counterparts first second uri notebook incarnation)
    (hnext : notebook.Next changed) :
    Counterparts (first.put changed) (second.put (changed.renumber incarnation)) uri changed
      incarnation := by
  have huri : changed.uri = uri := hnext.uri_eq.trans h.uri_eq
  have hfirst : (first.put changed).workspace.get? uri = some changed := by
    rw [Session.put, Workspace.get?_put, if_pos huri.symm]
  have hsecond : (second.put (changed.renumber incarnation)).workspace.get? uri =
      some (changed.renumber incarnation) := by
    rw [Session.put, Workspace.get?_put]
    exact if_pos huri.symm
  have hretired : first.board.hasRetired changed.incarnation =
      second.board.hasRetired incarnation := by
    rw [hnext.incarnation_eq]
    exact h.hasRetired_eq
  refine ⟨?_, huri, hfirst, hsecond⟩
  have hview := h.view_eq
  simp only [view, View.mk.injEq] at hview ⊢
  rw [hfirst, hsecond]
  obtain ⟨hlanguage, hdelimiter, hpublishes, -, -, hversion, hremembered⟩ := hview
  exact ⟨hlanguage, hdelimiter, hpublishes, rfl, hretired, hversion, hremembered⟩

/-- Clearing the boards of both gives the same, and leaves the notebook retired on both. -/
theorem clear (h : Counterparts first second uri notebook incarnation) :
    (first.board.clear notebook).value.1 =
        (second.board.clear (notebook.renumber incarnation)).value.1 ∧
      (first.board.clear notebook).log =
        (second.board.clear (notebook.renumber incarnation)).log ∧
      (first.board.clear notebook).value.2.remembered.get? uri =
        (second.board.clear (notebook.renumber incarnation)).value.2.remembered.get? uri := by
  have hretired : second.board.hasRetired (notebook.renumber incarnation).incarnation =
      first.board.hasRetired notebook.incarnation :=
    h.hasRetired_eq.symm
  have hcells : second.board.rememberedCells uri = first.board.rememberedCells uri := by
    rw [Board.rememberedCells, ← h.remembered_eq, Board.rememberedCells]
  have huri : (notebook.renumber incarnation).uri = uri := h.uri_eq
  rw [Board.clear, Board.clear, hretired, huri, h.uri_eq, hcells]
  split
  · exact ⟨rfl, rfl, h.remembered_eq⟩
  · refine ⟨rfl, rfl, ?_⟩
    dsimp only
    rw [Table.get?_erase, Table.get?_erase, if_pos rfl, if_pos rfl]

/-- Clearing alike notebooks leaves sessions that look alike. -/
theorem view_clear (h : Counterparts first second uri notebook incarnation) :
    Session.view { first with board := (first.board.clear notebook).value.2 } uri =
      Session.view { second with
        board := (second.board.clear (notebook.renumber incarnation)).value.2 } uri := by
  obtain ⟨-, -, hremembered⟩ := h.clear
  have hview := h.view_eq
  have hfirst : (first.board.clear notebook).value.2.hasRetired notebook.incarnation = true :=
    Board.hasRetired_iff.2 (Board.mem_retired_clear.2 (.inl rfl))
  have hsecond : (second.board.clear (notebook.renumber incarnation)).value.2.hasRetired
      (notebook.renumber incarnation).incarnation = true :=
    Board.hasRetired_iff.2 (Board.mem_retired_clear.2 (.inl rfl))
  simp only [view, View.mk.injEq, h.open_first, h.open_second, Option.any_some, hfirst, hsecond,
    true_and] at hview ⊢
  obtain ⟨hlanguage, hdelimiter, hpublishes, hnotebook, -, hversion, -⟩ := hview
  exact ⟨hlanguage, hdelimiter, hpublishes, hnotebook, hversion, hremembered⟩

/-- Both notebooks are closed. -/
theorem view_close (h : Counterparts first second uri notebook incarnation) :
    (first.closeNotebook uri).value.2.view uri = (second.closeNotebook uri).value.2.view uri := by
  obtain ⟨-, -, hremembered⟩ := h.clear
  have hview := h.view_eq
  have hfirst := Workspace.get?_closeNotebook h.open_first uri
  have hsecond := Workspace.get?_closeNotebook h.open_second uri
  rw [if_pos rfl] at hfirst hsecond
  have hversion {session : Session} {found : Notebook}
      (hopen : session.workspace.get? uri = some found) :
      (session.workspace.closeNotebook uri).value.2.versionsAtClose.get? uri =
        some found.version := by
    rw [Workspace.closeNotebook, hopen]
    exact (Table.get?_set _ _ _ _).trans (if_pos rfl)
  have hdelimiter (session : Session) :
      (session.workspace.closeNotebook uri).value.2.delimiter = session.workspace.delimiter := by
    unfold Workspace.closeNotebook
    split <;> rfl
  rw [closeNotebook_of_open h.open_first, closeNotebook_of_open h.open_second]
  simp only [view, View.mk.injEq, hfirst, hsecond, hversion h.open_first, hversion h.open_second,
    hdelimiter] at hview ⊢
  refine ⟨hview.1, hview.2.1, hview.2.2.1, ?_, rfl, rfl, hremembered⟩
  trivial

end Counterparts

end Counterparts

/-! ## Operations -/

/-- What there is to see of a result under a uri; `strip` leaves out what is not to be compared. -/
def seen {α : Type} (uri : String) (strip : α → α) (done : Witnessed (α × Session)) :
    α × View × List Event :=
  (strip done.value.1, done.value.2.view uri, done.events)

/-- Results that look the same fail both, with one error, or neither does. -/
theorem error_or_ok {α : Type} {uri : String} {strip : α → α}
    {result result' : Except SyncError (Witnessed (α × Session))}
    (h : result.map (seen uri strip) = result'.map (seen uri strip)) :
    (∃ error, result = .error error ∧ result' = .error error) ∨
      ∃ done done', result = .ok done ∧ result' = .ok done' ∧
        seen uri strip done = seen uri strip done' := by
  cases result with
  | error error =>
    cases result' with
    | error error' => exact .inl ⟨error, rfl, congrArg Except.error (Except.error.inj h).symm⟩
    | ok done' => simp [Except.map] at h
  | ok done =>
    cases result' with
    | error error' => simp [Except.map] at h
    | ok done' => exact .inr ⟨done, done', rfl, rfl, Except.ok.inj h⟩

section Operations

variable {first second : Session} {uri : String}

/-- What is done to an open notebook can be compared, and so can the error if there is none. -/
theorem seen_fetch {α : Type} {strip : α → α}
    {use : Session → Notebook → Except SyncError (Witnessed (α × Session))}
    (h : first.Sound) (hview : first.view uri = second.view uri)
    (huse : ∀ notebook incarnation, Counterparts first second uri notebook incarnation →
      (use first notebook).map (seen uri strip) =
        (use second (notebook.renumber incarnation)).map (seen uri strip)) :
    (first.workspace.fetch uri >>= use first).map (seen uri strip) =
      (second.workspace.fetch uri >>= use second).map (seen uri strip) := by
  rcases none_or_counterparts h hview with ⟨hfirst, hsecond⟩ | ⟨notebook, incarnation, hpair⟩
  · rw [Workspace.fetch, Workspace.fetch, hfirst, hsecond]
    rfl
  · rw [Workspace.fetch, Workspace.fetch, hpair.open_first, hpair.open_second]
    exact huse notebook incarnation hpair

theorem seen_changeContent (h : first.Sound) (hview : first.view uri = second.view uri)
    (cell : String) (edits : List Edit) (version : Option Int) :
    (first.changeContent uri cell edits version).map (seen uri id) =
      (second.changeContent uri cell edits version).map (seen uri id) := by
  apply seen_fetch h hview
  intro notebook incarnation hpair
  rw [Notebook.changeContent_renumber]
  cases hchange : notebook.changeContent cell edits version with
  | error error => rfl
  | ok change =>
    have hput := (hpair.put (Notebook.next_of_changeContent hchange)).view_eq
    simp only [bind, Except.bind, Except.map, pure, Except.pure, seen, hput]

theorem seen_document (h : first.Sound) (hview : first.view uri = second.view uri) :
    (first.document uri).map (seen uri id) = (second.document uri).map (seen uri id) := by
  apply seen_fetch h hview
  intro notebook incarnation hpair
  have hlanguage : first.language = second.language := congrArg View.language hview
  have hput := (hpair.put (Notebook.next_readIndex notebook)).view_eq
  simp only [Notebook.readIndex_renumber, pure, Except.pure, Except.map, seen, hput, hlanguage]
  rfl

theorem seen_projectFix (h : first.Sound) (hview : first.view uri = second.view uri) (fix : Fix) :
    (first.projectFix uri fix).map (seen uri id) =
      (second.projectFix uri fix).map (seen uri id) := by
  apply seen_fetch h hview
  intro notebook incarnation hpair
  have hput := (hpair.put (Notebook.next_readIndex notebook)).view_eq
  simp only [Board.projectFix, Notebook.readIndex_renumber, pure, Except.pure, Except.map, seen,
    hput]

theorem seen_clear (h : first.Sound) (hview : first.view uri = second.view uri) :
    (first.clear uri).map (seen uri id) = (second.clear uri).map (seen uri id) := by
  apply seen_fetch h hview
  intro notebook incarnation hpair
  obtain ⟨hemptied, hlog, -⟩ := hpair.clear
  simp only [pure, Except.pure, Except.map, seen, hemptied, hlog, hpair.view_clear]

theorem publications_eq (hview : first.view uri = second.view uri) (byCell : CellDiagnostics) :
    first.publications byCell = second.publications byCell := by
  have hpublishes : first.publishes = second.publishes := congrArg View.publishes hview
  rw [publications, publications, hpublishes]

theorem view_clearCell_eq (hview : first.view uri = second.view uri) (cell : String) :
    Session.view { first with board := (first.board.clearCell uri cell).2 } uri =
      Session.view { second with board := (second.board.clearCell uri cell).2 } uri := by
  have hremembered (board : Board) : (board.clearCell uri cell).2.remembered.get? uri =
      (board.remembered.get? uri).map (·.filter (· != cell)) := by
    unfold Board.clearCell
    cases hget : board.remembered.get? uri with
    | none => exact hget
    | some cells => exact (Table.get?_set _ _ _ _).trans (if_pos rfl)
  have hretired (board : Board) (incarnation : Nat) :
      (board.clearCell uri cell).2.hasRetired incarnation = board.hasRetired incarnation :=
    rfl
  simp only [view, View.mk.injEq, hremembered, hretired] at hview ⊢
  obtain ⟨hlanguage, hdelimiter, hpublishes, hnotebook, hisRetired, hversion, hcells⟩ := hview
  exact ⟨hlanguage, hdelimiter, hpublishes, hnotebook, hisRetired, hversion, congrArg _ hcells⟩

/-- Forgetting cells sends the same and leaves sessions that look alike. -/
theorem seen_forgetCells (hview : first.view uri = second.view uri) (cells : List String) :
    (first.forgetCells uri cells).events = (second.forgetCells uri cells).events ∧
      (first.forgetCells uri cells).value.view uri =
        (second.forgetCells uri cells).value.view uri := by
  induction cells generalizing first second with
  | nil => exact ⟨rfl, hview⟩
  | cons cell rest ih =>
    obtain ⟨hevents, hforgotten⟩ := ih (view_clearCell_eq hview cell)
    refine ⟨?_, hforgotten⟩
    exact congrArg₂ (· ++ ·) (publications_eq hview [(cell, [])]) hevents

theorem seen_changeStructure (h : first.Sound) (hview : first.view uri = second.view uri)
    (opened : List (Int × Cell)) (closed : List String) :
    (first.changeStructure uri opened closed).map (seen uri (·.renumber 0)) =
      (second.changeStructure uri opened closed).map (seen uri (·.renumber 0)) := by
  apply seen_fetch h hview
  intro notebook incarnation hpair
  rw [Notebook.changeStructure_renumber]
  cases hchange : notebook.changeStructure opened closed with
  | error error => rfl
  | ok change =>
    have hput := (hpair.put (Notebook.next_of_changeStructure hchange).1).view_eq
    obtain ⟨hevents, hforgotten⟩ := seen_forgetCells hput (change.value.1.map (·.uri))
    simp only [bind, Except.bind, Except.map, pure, Except.pure, seen, hevents, hforgotten,
      Notebook.renumber_renumber]

/-- The last version is part of what is seen under a uri. -/
theorem lastVersion_eq (hview : first.view uri = second.view uri) :
    first.workspace.lastVersion uri = second.workspace.lastVersion uri := by
  have hnotebook := congrArg View.notebook hview
  have hversion := congrArg View.versionAtClose hview
  simp only [view] at hnotebook hversion
  rw [Workspace.lastVersion, Workspace.lastVersion, hversion]
  cases hfirst : first.workspace.get? uri with
  | none =>
    rw [hfirst] at hnotebook
    rw [Option.map_eq_none_iff.1 hnotebook.symm]
  | some notebook =>
    rw [hfirst] at hnotebook
    obtain ⟨other, hsecond, hother⟩ := Option.map_eq_some_iff.1 hnotebook.symm
    rw [hsecond]
    exact (congrArg Notebook.version hother).symm

theorem openLog_eq (hview : first.view uri = second.view uri) (count : Nat) :
    first.workspace.openLog uri count = second.workspace.openLog uri count := by
  have hnotebook := congrArg (·.notebook.isSome) hview
  simp only [view, Option.isSome_map] at hnotebook
  have hopen : first.workspace.isOpen uri = second.workspace.isOpen uri := hnotebook
  rw [Workspace.openLog, Workspace.openLog, hopen]

/-- An incarnation that was not there before is not retired. -/
theorem Sound.view_opened_self (h : first.Sound) {cells : List Cell}
    {opened : Traced (Notebook × Workspace)}
    (hopened : first.workspace.openNotebook uri cells = .ok opened) :
    Session.view { first with workspace := opened.value.2 } uri =
      { first.view uri with
        notebook := some (opened.value.1.renumber 0)
        isRetired := false
        versionAtClose := none } := by
  have hget := Workspace.get?_openNotebook hopened uri
  obtain ⟨_, -, hnotebook, hworkspace⟩ := Workspace.openNotebook_eq_ok hopened
  have hretired : first.board.hasRetired opened.value.1.incarnation = false := by
    rw [Bool.eq_false_iff, ne_eq, Board.hasRetired_iff, hnotebook]
    exact fun hmem ↦ Nat.lt_irrefl _ (h.retired_lt hmem)
  have hversion : opened.value.2.versionsAtClose.get? uri = none := by
    rw [hworkspace]
    exact (Table.get?_erase _ _ _).trans (if_pos rfl)
  have hdelimiter : opened.value.2.delimiter = first.workspace.delimiter := by
    rw [hworkspace]
    rfl
  rw [if_pos rfl] at hget
  simp only [view, hget, hversion, hdelimiter, Option.map_some, Option.any_some, hretired]

theorem seen_openNotebook (h : first.Sound) (hsecond : second.Sound)
    (hview : first.view uri = second.view uri) (cells : List Cell) :
    (first.openNotebook uri cells).map (seen uri (·.renumber 0)) =
      (second.openNotebook uri cells).map (seen uri (·.renumber 0)) := by
  rw [openNotebook, openNotebook]
  cases htable : CellTable.of cells with
  | error error =>
    rw [Workspace.openNotebook_of_error htable, Workspace.openNotebook_of_error htable]
    rfl
  | ok _ =>
    obtain ⟨opened, hopened, hlog⟩ := Workspace.openNotebook_of_ok htable first.workspace uri
    obtain ⟨opened', hopened', hlog'⟩ := Workspace.openNotebook_of_ok htable second.workspace uri
    obtain ⟨table, rfl, hnotebook, -⟩ := Workspace.openNotebook_eq_ok hopened
    obtain ⟨other, hordered, hnotebook', -⟩ := Workspace.openNotebook_eq_ok hopened'
    obtain rfl := CellTable.ext hordered
    have hdelimiter : first.workspace.delimiter = second.workspace.delimiter :=
      congrArg View.delimiter hview
    have hrenumber : opened.value.1.renumber 0 = opened'.value.1.renumber 0 := by
      rw [hnotebook, hnotebook', hdelimiter, lastVersion_eq hview]
      rfl
    simp only [hopened, hopened', bind, Except.bind, pure, Except.pure, Except.map, seen,
      h.view_opened_self hopened, hsecond.view_opened_self hopened', hrenumber, hlog, hlog',
      openLog_eq hview, hview]

theorem seen_closeNotebook (h : first.Sound) (hview : first.view uri = second.view uri) :
    seen uri id (first.closeNotebook uri) = seen uri id (second.closeNotebook uri) := by
  rcases none_or_counterparts h hview with ⟨hfirst, hsecond⟩ | ⟨notebook, incarnation, hpair⟩
  · simp only [closeNotebook, Workspace.closeNotebook, hfirst, hsecond, seen, hview]
  · obtain ⟨hemptied, hlog, hremembered⟩ := hpair.clear
    rw [seen, seen, hpair.view_close, closeNotebook_of_open hpair.open_first,
      closeNotebook_of_open hpair.open_second, hemptied, hlog, publications_eq hview]
    rw [Workspace.closeNotebook, Workspace.closeNotebook, hpair.open_first, hpair.open_second]

theorem seen_owner (h : first.Sound) (hview : first.view uri = second.view uri) (line : Int) :
    seen uri id (first.owner uri line) = seen uri id (second.owner uri line) := by
  rcases none_or_counterparts h hview with ⟨hfirst, hsecond⟩ | ⟨notebook, incarnation, hpair⟩
  · simp only [owner, hfirst, hsecond, seen, hview]
  · have hput := (hpair.put (Notebook.next_readIndex notebook)).view_eq
    simp only [owner, hpair.open_first, hpair.open_second, Notebook.readIndex_renumber, seen, hput]

/-! ## Passes -/

/-- Passes that begin in two sessions are the same but for the incarnation of the notebook. -/
structure StartsAlike (first second : Session) (uri : String) (analyzed : Option Int)
    (notebook : Notebook) (incarnation : Nat) (pass : Pass) (begun begun' : Session)
    (events : List Event) : Prop where
  start_first : first.startPass uri analyzed = ⟨some (pass, begun), events⟩
  start_second :
    second.startPass uri analyzed = ⟨some (pass.renumber incarnation, begun'), events⟩
  counterparts : Counterparts begun begun' uri notebook incarnation
  notebook_eq : pass.notebook = uri
  incarnation_eq : pass.incarnation = notebook.incarnation

/-- Projections both begin with alike passes, or neither begins. -/
theorem none_or_startsAlike (h : first.Sound) (hview : first.view uri = second.view uri)
    (analyzed : Option Int) :
    (∃ events, first.startPass uri analyzed = ⟨none, events⟩ ∧
        second.startPass uri analyzed = ⟨none, events⟩) ∨
      ∃ notebook incarnation pass begun begun' events,
        StartsAlike first second uri analyzed notebook incarnation pass begun begun' events := by
  rcases none_or_counterparts h hview with ⟨hfirst, hsecond⟩ | ⟨notebook, incarnation, hpair⟩
  · rw [startPass, startPass, hfirst, hsecond]
    exact .inl ⟨_, rfl, rfl⟩
  · have hstart := Board.start_renumber hpair.hasRetired_eq.symm analyzed
    have hput := hpair.put (Notebook.next_readIndex notebook)
    cases hbegun : first.board.start notebook analyzed with
    | mk value log =>
      rw [hbegun] at hstart
      cases value with
      | none =>
        refine .inl ⟨log.map .logged, ?_, ?_⟩
        · simp only [startPass, hpair.open_first, hbegun]
        · simp only [startPass, hpair.open_second, hstart, Option.map_none]
      | some begun =>
        obtain ⟨pass, kept⟩ := begun
        obtain ⟨-, -, hpass, rfl⟩ := Board.start_eq_some (congrArg Traced.value hbegun)
        refine .inr ⟨_, _, pass, _, _, log.map .logged, ?_, ?_, hput, ?_, ?_⟩
        · simp only [startPass, hpair.open_first, hbegun]
        · simp only [startPass, hpair.open_second, hstart, Option.map_some]
        · rw [hpass]
          exact hpair.uri_eq
        · rw [hpass, Notebook.incarnation_readIndex]

theorem view_remember (hview : first.view uri = second.view uri) (cells : List String) :
    Session.view { first with
        board := { first.board with remembered := first.board.remembered.set uri cells } } uri =
      Session.view { second with
        board := { second.board with remembered := second.board.remembered.set uri cells } }
        uri := by
  have hretired (board : Board) (remembered : Table (List String)) (incarnation : Nat) :
      Board.hasRetired { board with remembered } incarnation = board.hasRetired incarnation :=
    rfl
  simp only [view, View.mk.injEq, hretired, Table.get?_set] at hview ⊢
  obtain ⟨hlanguage, hdelimiter, hpublishes, hnotebook, hisRetired, hversion, -⟩ := hview
  exact ⟨hlanguage, hdelimiter, hpublishes, hnotebook, hisRetired, hversion, rfl⟩

/-- Passes that are alike end alike. -/
theorem seen_finishPass (hview : first.view uri = second.view uri) {pass : Pass}
    (huri : pass.notebook = uri) {incarnation : Nat}
    (hretired : first.board.hasRetired pass.incarnation = second.board.hasRetired incarnation) :
    seen uri id (first.finishPass pass) =
      seen uri id (second.finishPass (pass.renumber incarnation)) := by
  have hsecond : second.board.hasRetired (pass.renumber incarnation).incarnation =
      first.board.hasRetired pass.incarnation :=
    hretired.symm
  have hcells : second.board.rememberedCells uri = first.board.rememberedCells uri := by
    have hremembered : first.board.remembered.get? uri = second.board.remembered.get? uri :=
      congrArg View.remembered hview
    rw [Board.rememberedCells, ← hremembered, Board.rememberedCells]
  have huri' : (pass.renumber incarnation).notebook = uri := huri
  have hremember := view_remember hview pass.byCell.withIssues
  have hbyCell : (pass.renumber incarnation).byCell = pass.byCell := rfl
  by_cases hdone : first.board.hasRetired pass.incarnation
  · simp only [finishPass, Board.finish, hsecond, if_pos hdone, seen, publications_eq hview]
    exact congrArg (_, ·, _) hview
  · simp only [finishPass, Board.finish, hsecond, if_neg hdone, seen, publications_eq hview, huri,
      huri', hcells, hbyCell, hremember]
    rfl

end Operations

end Session

end CellWeave
