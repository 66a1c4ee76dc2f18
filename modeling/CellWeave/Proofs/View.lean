import CellWeave.Proofs.Findings
import CellWeave.Proofs.Incarnation
import CellWeave.Proofs.Sound
/-!
# What a uri sees of a session

An operation names a notebook uri. It reads and writes what is kept under that uri, and finds by the
incarnation of the open notebook whether that one is retired. What is kept under other uris stays as
it is, whatever uris their cells have.
-/

namespace CellWeave

namespace Session

/-- What there is under one uri. The incarnation of the notebook is left out, which tells how many
were opened under all uris. -/
structure View where
  language : Text
  delimiter : Delimiter
  publishes : Bool
  notebook : Option Notebook
  isRetired : Bool
  versionAtClose : Option Int
  remembered : Option (List String)
  deriving DecidableEq

def view (session : Session) (uri : String) : View where
  language := session.language
  delimiter := session.workspace.delimiter
  publishes := session.publishes
  notebook := (session.workspace.get? uri).map (·.renumber 0)
  isRetired := (session.workspace.get? uri).any (session.board.hasRetired ·.incarnation)
  versionAtClose := session.workspace.versionsAtClose.get? uri
  remembered := session.board.remembered.get? uri

/-- What is seen under a uri is settled by its notebook and marks and by the session's settings. -/
theorem view_congr {first second : Session} {uri : String}
    (hlanguage : first.language = second.language)
    (hdelimiter : first.workspace.delimiter = second.workspace.delimiter)
    (hpublishes : first.publishes = second.publishes)
    (hget : first.workspace.get? uri = second.workspace.get? uri)
    (hretired : ∀ notebook, second.workspace.get? uri = some notebook →
      first.board.hasRetired notebook.incarnation = second.board.hasRetired notebook.incarnation)
    (hversion : first.workspace.versionsAtClose.get? uri =
      second.workspace.versionsAtClose.get? uri)
    (hremembered : first.board.remembered.get? uri = second.board.remembered.get? uri) :
    first.view uri = second.view uri := by
  rw [view, view, hlanguage, hdelimiter, hpublishes, hget, hversion, hremembered]
  congr 1
  cases hopen : second.workspace.get? uri with
  | none => rfl
  | some notebook => exact hretired notebook hopen

/-! ## Other uris -/

section Other

variable {session : Session} {uri other : String} {notebook changed : Notebook}

theorem Sound.view_put (h : session.Sound) (hopen : session.workspace.get? uri = some notebook)
    (hnext : notebook.Next changed) (hne : other ≠ uri) :
    (session.put changed).view other = session.view other := by
  have hget := h.get?_put hopen hnext other
  rw [if_neg hne] at hget
  exact view_congr rfl rfl rfl hget (fun _ _ ↦ rfl) rfl rfl

/-- A board with the same retired notebooks and marks under a uri looks the same there. -/
theorem view_board {board : Board} (hretired : board.retired = session.board.retired)
    (hremembered : board.remembered.get? other = session.board.remembered.get? other) :
    Session.view { session with board } other = session.view other := by
  refine view_congr rfl rfl rfl rfl (fun found _ ↦ ?_) rfl hremembered
  rw [Board.hasRetired, hretired, Board.hasRetired]

/-- Retiring a notebook does not retire the one that is open under another uri. -/
theorem Sound.view_clear (h : session.Sound) (hopen : session.workspace.get? uri = some notebook)
    (hne : other ≠ uri) :
    Session.view { session with board := (session.board.clear notebook).value.2 } other =
      session.view other := by
  refine view_congr rfl rfl rfl rfl (fun found hfound ↦ ?_) rfl ?_
  · have hinc : found.incarnation ≠ notebook.incarnation :=
      fun heq ↦ hne (h.uri_eq_of_incarnation_eq hfound hopen heq)
    rw [Bool.eq_iff_iff, Board.hasRetired_iff, Board.hasRetired_iff, Board.mem_retired_clear]
    exact or_iff_right hinc
  · by_cases hretired : notebook.incarnation ∈ session.board.retired
    · rw [Board.clear_of_retired hretired]
    · rw [Board.clear_of_not_retired hretired]
      dsimp only
      rw [Table.get?_erase, h.uri_eq hopen, if_neg hne]

theorem view_clearCell (session : Session) (cell : String) (hne : other ≠ uri) :
    Session.view { session with board := (session.board.clearCell uri cell).2 } other =
      session.view other := by
  apply view_board
  · rfl
  · unfold Board.clearCell
    dsimp only
    split
    · rw [Table.get?_set, if_neg hne]
    · rfl

theorem view_forgetCells (session : Session) (cells : List String) (hne : other ≠ uri) :
    (session.forgetCells uri cells).value.view other = session.view other := by
  induction cells generalizing session with
  | nil => rfl
  | cons cell rest ih =>
    rw [forgetCells]
    exact (ih _).trans (view_clearCell session cell hne)

theorem view_opened {cells : List Cell} {opened : Traced (Notebook × Workspace)}
    (hopened : session.workspace.openNotebook uri cells = .ok opened) (hne : other ≠ uri) :
    Session.view { session with workspace := opened.value.2 } other = session.view other := by
  have hget := Workspace.get?_openNotebook hopened other
  obtain ⟨_, -, -, hworkspace⟩ := Workspace.openNotebook_eq_ok hopened
  rw [if_neg hne] at hget
  refine view_congr rfl ?_ rfl hget (fun _ _ ↦ rfl) ?_ rfl
  · rw [hworkspace]
    rfl
  · rw [hworkspace]
    exact (Table.get?_erase session.workspace.versionsAtClose uri other).trans (if_neg hne)

/-- Closing a notebook is not seen under other uris. -/
theorem view_closed (session : Session) (hopen : session.workspace.get? uri = some notebook)
    (hne : other ≠ uri) :
    Session.view { session with workspace := (session.workspace.closeNotebook uri).value.2 } other =
      session.view other := by
  have hget := Workspace.get?_closeNotebook hopen other
  rw [if_neg hne] at hget
  refine view_congr rfl ?_ rfl hget (fun _ _ ↦ rfl) ?_ rfl
  · rw [Workspace.closeNotebook, hopen]
  · rw [Workspace.closeNotebook, hopen]
    exact (Table.get?_set session.workspace.versionsAtClose uri _ other).trans (if_neg hne)

/-- The end of a pass is not seen under other uris. -/
theorem view_finish (session : Session) {pass : Pass} (hne : other ≠ pass.notebook) :
    Session.view { session with board := (session.board.finish pass).value.2 } other =
      session.view other := by
  apply view_board (Board.retired_finish session.board pass)
  by_cases hretired : pass.incarnation ∈ session.board.retired
  · rw [Board.finish_of_retired hretired]
  · rw [Board.finish_of_not_retired hretired]
    dsimp only
    rw [Table.get?_set, if_neg hne]

/-! ## Requests under other uris -/

theorem view_openNotebook {cells : List Cell} {done : Witnessed (Notebook × Session)}
    (h : session.openNotebook uri cells = .ok done) (hne : other ≠ uri) :
    done.value.2.view other = session.view other := by
  obtain ⟨opened, hopened, h⟩ := bind_eq_ok_iff.1 h
  obtain rfl := Except.ok.inj h
  exact view_opened hopened hne

theorem closeNotebook_of_open (hopen : session.workspace.get? uri = some notebook) :
    session.closeNotebook uri =
      ⟨((session.board.clear notebook).value.1,
        { session with
          workspace := (session.workspace.closeNotebook uri).value.2
          board := (session.board.clear notebook).value.2 }),
        ((session.workspace.closeNotebook uri).log ++ (session.board.clear notebook).log).map
          .logged ++ session.publications (session.board.clear notebook).value.1⟩ := by
  simp only [closeNotebook, Workspace.closeNotebook, hopen]

theorem Sound.view_closeNotebook (h : session.Sound) (hne : other ≠ uri) :
    (session.closeNotebook uri).value.2.view other = session.view other := by
  cases hopen : session.workspace.get? uri with
  | none =>
    have hclose : (session.closeNotebook uri).value.2 = session := by
      simp only [Session.closeNotebook, Workspace.closeNotebook, hopen]
    rw [hclose]
  | some notebook =>
    let cleared : Session := { session with board := (session.board.clear notebook).value.2 }
    calc (session.closeNotebook uri).value.2.view other
      _ = cleared.view other := by
        rw [closeNotebook_of_open hopen]
        exact view_closed cleared hopen hne
      _ = session.view other := h.view_clear hopen hne

theorem Sound.view_changeStructure (h : session.Sound) {opened : List (Int × Cell)}
    {closed : List String} {done : Witnessed (Notebook × Session)}
    (hdone : session.changeStructure uri opened closed = .ok done) (hne : other ≠ uri) :
    done.value.2.view other = session.view other := by
  obtain ⟨notebook, hfetch, hdone⟩ := bind_eq_ok_iff.1 hdone
  obtain ⟨change, hchange, hdone⟩ := bind_eq_ok_iff.1 hdone
  obtain rfl := Except.ok.inj hdone
  rw [← h.view_put (Workspace.fetch_eq_ok_iff.1 hfetch)
    (Notebook.next_of_changeStructure hchange).1 hne]
  exact view_forgetCells _ _ hne

theorem Sound.view_changeContent (h : session.Sound) {cell : String} {edits : List Edit}
    {version : Option Int} {done : Witnessed (Cell × Session)}
    (hdone : session.changeContent uri cell edits version = .ok done) (hne : other ≠ uri) :
    done.value.2.view other = session.view other := by
  obtain ⟨notebook, hfetch, hdone⟩ := bind_eq_ok_iff.1 hdone
  obtain ⟨change, hchange, hdone⟩ := bind_eq_ok_iff.1 hdone
  obtain rfl := Except.ok.inj hdone
  exact h.view_put (Workspace.fetch_eq_ok_iff.1 hfetch) (Notebook.next_of_changeContent hchange) hne

theorem Sound.view_document (h : session.Sound) {done : Witnessed (Document × Session)}
    (hdone : session.document uri = .ok done) (hne : other ≠ uri) :
    done.value.2.view other = session.view other := by
  obtain ⟨notebook, hfetch, hdone⟩ := bind_eq_ok_iff.1 hdone
  obtain rfl := Except.ok.inj hdone
  exact h.view_put (Workspace.fetch_eq_ok_iff.1 hfetch) (Notebook.next_readIndex notebook) hne

theorem Sound.view_projectFix (h : session.Sound) {fix : Fix}
    {done : Witnessed (Option CellFix × Session)} (hdone : session.projectFix uri fix = .ok done)
    (hne : other ≠ uri) : done.value.2.view other = session.view other := by
  obtain ⟨notebook, hfetch, hdone⟩ := bind_eq_ok_iff.1 hdone
  obtain rfl := Except.ok.inj hdone
  exact h.view_put (Workspace.fetch_eq_ok_iff.1 hfetch) (Notebook.next_readIndex notebook) hne

theorem Sound.view_owner (h : session.Sound) (line : Int) (hne : other ≠ uri) :
    (session.owner uri line).value.2.view other = session.view other := by
  unfold owner
  split
  · rfl
  · next notebook hopen => exact h.view_put hopen (Notebook.next_readIndex notebook) hne

theorem Sound.view_clearBoard (h : session.Sound) {done : Witnessed (CellDiagnostics × Session)}
    (hdone : session.clear uri = .ok done) (hne : other ≠ uri) :
    done.value.2.view other = session.view other := by
  obtain ⟨notebook, hfetch, hdone⟩ := bind_eq_ok_iff.1 hdone
  obtain rfl := Except.ok.inj hdone
  exact h.view_clear (Workspace.fetch_eq_ok_iff.1 hfetch) hne

end Other

namespace Desk

/-- What a uri sees of a session, and the index that was put aside last under it. -/
def view (desk : Desk) (uri : String) : View × Option DocumentIndex :=
  (desk.session.view uri, desk.held.get? uri)

section Other

variable {desk : Desk} {uri other : String}

theorem view_attempt {α : Type} {reply : α → Reply}
    {result : Except SyncError (Witnessed (α × Session))}
    (h : ∀ done, result = .ok done → done.value.2.view other = desk.session.view other) :
    (desk.attempt reply result).desk.view other = desk.view other := by
  cases result with
  | ok done => exact congrArg (·, desk.held.get? other) (h done rfl)
  | error error => rfl

theorem view_applyGroups (h : desk.session.Sound) (changed : List Cell) (groups : List EditGroup)
    (hne : other ≠ uri) :
    (desk.applyGroups uri changed groups).desk.view other = desk.view other := by
  induction groups generalizing desk changed with
  | nil => rfl
  | cons group rest ih =>
    cases hchange : desk.session.changeContent uri group.cell group.edits none with
    | error error =>
      simp only [applyGroups, hchange]
      rfl
    | ok done =>
      have htrace : Trace desk.session (.document uri) desk.session _ done.value.2 :=
        trace_changeContent hchange
      have hsound := h.trace htrace
      simp only [applyGroups, hchange]
      rw [ih hsound, view, view, h.view_changeContent hchange hne]

/-- A fix is not seen under other uris. -/
theorem view_applyFix (h : desk.session.Sound) (fix : Fix) (hne : other ≠ uri) :
    (desk.applyFix uri fix).desk.view other = desk.view other := by
  cases hproject : desk.session.projectFix uri fix with
  | error error =>
    simp only [applyFix, hproject]
    rfl
  | ok done =>
    have htrace : Trace desk.session (.applyFix uri fix) desk.session _ done.value.2 :=
      trace_projectFix hproject
    have hview := h.view_projectFix hproject hne
    obtain ⟨⟨projected, session⟩, events⟩ := done
    cases projected with
    | none =>
      simp only [applyFix, hproject]
      exact congrArg (·, desk.held.get? other) hview
    | some projected =>
      let found : Desk := { desk with session }
      have hfound : found.session.Sound := h.trace htrace
      simp only [applyFix, hproject]
      calc (found.applyGroups uri [] projected.groups).desk.view other
        _ = found.view other := view_applyGroups hfound [] projected.groups hne
        _ = desk.view other := congrArg (·, desk.held.get? other) hview

/-- What is asked of a notebook is not seen under other uris. -/
theorem view_within (h : desk.session.Sound) (request : Notebook.Request) (hne : other ≠ uri) :
    (desk.within uri request).desk.view other = desk.view other := by
  cases hfetch : desk.session.workspace.fetch uri with
  | error error =>
    simp only [within, hfetch]
    rfl
  | ok notebook =>
    have hheld (held : Option DocumentIndex) :
        (desk.held.keep uri held).get? other = desk.held.get? other := by
      cases held with
      | none => rfl
      | some index => exact (Table.get?_set desk.held uri index other).trans (if_neg hne)
    simp only [within, hfetch]
    rw [view, view, hheld, h.view_put (Workspace.fetch_eq_ok_iff.1 hfetch)
      (Notebook.next_handle ⟨notebook, desk.held.get? uri⟩ request) hne]

/-- A call leaves what other uris see as it is. -/
theorem view_call (h : desk.session.Sound) {call : Call} (hne : call.uri? ≠ some other) :
    (desk.call call).desk.view other = desk.view other := by
  have hother (uri : String) (huri : call.uri? = some uri) : other ≠ uri :=
    fun heq ↦ hne (huri.trans (congrArg some heq.symm))
  cases call with
  | openNotebook uri => exact view_attempt fun _ hdone ↦ view_openNotebook hdone (hother uri rfl)
  | closeNotebook uri =>
    exact congrArg (·, desk.held.get? other) (h.view_closeNotebook (hother uri rfl))
  | changeStructure uri =>
    exact view_attempt fun _ hdone ↦ h.view_changeStructure hdone (hother uri rfl)
  | changeContent uri =>
    exact view_attempt fun _ hdone ↦ h.view_changeContent hdone (hother uri rfl)
  | document uri => exact view_attempt fun _ hdone ↦ h.view_document hdone (hother uri rfl)
  | projectFix uri => exact view_attempt fun _ hdone ↦ h.view_projectFix hdone (hother uri rfl)
  | applyFix uri fix => exact view_applyFix h fix (hother uri rfl)
  | owner uri line => exact congrArg (·, desk.held.get? other) (h.view_owner line (hother uri rfl))
  | knowsCell | notebookOfCell => rfl
  | clear uri => exact view_attempt fun _ hdone ↦ h.view_clearBoard hdone (hother uri rfl)
  | within uri request => exact view_within h request (hother uri rfl)

end Other

end Desk

/-! ## Projections without requests in them -/

namespace Request

/-- The notebook uri that a request names. -/
def uri? : Request → Option String
  | .call asked => asked.uri?
  | .project uri _ _ => some uri

def isFlat : Request → Bool
  | .call _ => true
  | .project _ findings _ => findings.isFlat

/-- A request leaves what other uris see as it is. -/
theorem view_handle {desk : Desk} (h : desk.session.Sound) {request : Request}
    (hflat : request.isFlat) {other : String} (hne : request.uri? ≠ some other) :
    (request.handle desk).desk.view other = desk.view other := by
  cases request with
  | call asked => exact Desk.view_call h hne
  | project uri findings analyzed =>
    have hother : other ≠ uri := fun heq ↦ hne (congrArg some heq.symm)
    obtain ⟨during, before, hhandle⟩ := handle_project desk uri findings analyzed
    rw [hhandle]
    cases hbegin : desk.begin? uri analyzed with
    | none => rw [Desk.project_of_none findings hbegin]
    | some begun =>
      obtain ⟨pass, begun⟩ := begun
      obtain ⟨notebook, hopen, -, -, hpass, rfl⟩ := Desk.begin_eq_some hbegin
      have hpassUri : (pass.readAll findings.findings).value.notebook = uri := by
        rw [(pass.readAll_keeps _).1, hpass]
        exact h.uri_eq hopen
      rw [Desk.project_of_begin findings hbegin, Stream.handle_of_isFlat hflat]
      dsimp only
      rw [Desk.view, Desk.view, Desk.land_session, view_finish _ (hpassUri ▸ hother)]
      exact congrArg (·, desk.held.get? other)
        (h.view_put hopen (Notebook.next_readIndex notebook) hother)

end Request

end Session

end CellWeave
