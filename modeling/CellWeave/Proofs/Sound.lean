import CellWeave.Proofs.Board
import CellWeave.Proofs.Course
/-!
# Sound sessions

However requests are nested, a session keeps each notebook under its own uri and with an
incarnation that no other has or had, and an index that a notebook keeps is the one of its version
or of an earlier one.
-/

namespace CellWeave

/-! ## Kept indexes -/

namespace Notebook

/-- The kept index is that of the current version, or of one before it. -/
def KeepsIndex (notebook : Notebook) : Prop :=
  ∀ kept, notebook.kept = some kept →
    kept.version ≤ notebook.version ∧ (kept.version = notebook.version → kept = notebook.index)

theorem keepsIndex_start (uri : String) (delimiter : Delimiter) (incarnation : Nat)
    (version : Int) : (start uri delimiter incarnation version).KeepsIndex := by
  rintro kept ⟨⟩

variable {notebook changed : Notebook}

/-- A kept index falls behind when the version is raised, and is never ahead. -/
theorem KeepsIndex.next (h : notebook.KeepsIndex) (hnext : notebook.Next changed) :
    changed.KeepsIndex := by
  intro index hindex
  cases hnext with
  | index kept hkept =>
    rcases hkept with rfl | rfl
    · exact h index hindex
    · obtain rfl := Option.some.inj hindex
      exact ⟨Int.le_refl _, fun _ ↦ rfl⟩
  | change table =>
    have hle := (h index hindex).1
    simp only [withTable]
    constructor <;> omega

/-- What is read is the index of the current version. -/
theorem KeepsIndex.readIndex_eq (h : notebook.KeepsIndex) :
    notebook.readIndex.value.1 = notebook.index := by
  unfold readIndex
  split
  · next kept hkept =>
    obtain ⟨hkept, hversion⟩ := Option.filter_eq_some_iff.1 hkept
    exact (h kept hkept).2 (of_decide_eq_true hversion)
  · rfl

/-- After a read, the index of the current version is kept. -/
theorem KeepsIndex.notebook_readIndex (h : notebook.KeepsIndex) :
    notebook.readIndex.value.2 = { notebook with kept := some notebook.index } := by
  unfold readIndex
  split
  · next kept hkept =>
    obtain ⟨hkept, hversion⟩ := Option.filter_eq_some_iff.1 hkept
    rw [← (h kept hkept).2 (of_decide_eq_true hversion), ← hkept]
  · rfl

theorem Next.uri_eq (h : notebook.Next changed) : changed.uri = notebook.uri := by
  cases h <;> rfl

theorem Next.incarnation_eq (h : notebook.Next changed) :
    changed.incarnation = notebook.incarnation := by
  cases h <;> rfl

end Notebook

/-! ## Lookups -/

namespace Workspace

theorem get?_put (workspace : Workspace) (notebook : Notebook) (uri : String) :
    (workspace.put notebook).get? uri =
      if uri = notebook.uri then some notebook else workspace.get? uri :=
  Table.get?_set workspace.notebooks notebook.uri notebook uri

variable {workspace : Workspace} {uri : String}

theorem get?_closeNotebook {notebook : Notebook} (hopen : workspace.get? uri = some notebook)
    (other : String) : (workspace.closeNotebook uri).value.2.get? other =
      if other = uri then none else workspace.get? other := by
  rw [closeNotebook, hopen]
  exact Table.get?_erase workspace.notebooks uri other

theorem opened_closeNotebook (workspace : Workspace) (uri : String) :
    (workspace.closeNotebook uri).value.2.opened = workspace.opened := by
  unfold closeNotebook
  split <;> rfl

/-- A notebook that is opened goes on from the last version under its uri. -/
theorem openNotebook_eq_ok {cells : List Cell} {opened : Traced (Notebook × Workspace)}
    (h : workspace.openNotebook uri cells = .ok opened) :
    ∃ table : CellTable, table.ordered = cells ∧
      opened.value.1 = ⟨uri, workspace.delimiter, workspace.opened, workspace.lastVersion uri + 1,
        table, none⟩ ∧
      opened.value.2 = { workspace.put opened.value.1 with
        versionsAtClose := workspace.versionsAtClose.erase uri
        opened := workspace.opened + 1 } := by
  obtain ⟨notebook, hnotebook, h⟩ := bind_eq_ok_iff.1 h
  obtain ⟨table, hcells, rfl⟩ := Notebook.replaceCells_eq_ok_iff.1 hnotebook
  obtain rfl := Except.ok.inj h
  exact ⟨table, hcells, rfl, rfl⟩

/-- A notebook is not opened only if a cell uri comes twice. -/
theorem openNotebook_eq_error {cells : List Cell} {error : SyncError}
    (h : workspace.openNotebook uri cells = .error error) :
    ¬(cells.map (·.uri)).Nodup := by
  intro hnodup
  simp [openNotebook, Notebook.replaceCells, CellTable.of_of_nodup hnodup, bind, Except.bind, pure,
    Except.pure] at h

/-- Opening a notebook changes what is open under its uri alone. -/
theorem get?_openNotebook {cells : List Cell} {opened : Traced (Notebook × Workspace)}
    (h : workspace.openNotebook uri cells = .ok opened) (other : String) :
    opened.value.2.get? other =
      if other = uri then some opened.value.1 else workspace.get? other := by
  obtain ⟨_, -, hnotebook, hworkspace⟩ := openNotebook_eq_ok h
  have hget := get?_put workspace opened.value.1 other
  rw [hworkspace]
  rwa [hnotebook] at hget ⊢

end Workspace

namespace Session

/-! ## Soundness -/

structure Sound (session : Session) : Prop where
  uri_eq {uri : String} {notebook : Notebook} (h : session.workspace.get? uri = some notebook) :
    notebook.uri = uri
  keepsIndex {uri : String} {notebook : Notebook}
    (h : session.workspace.get? uri = some notebook) : notebook.KeepsIndex
  incarnation_lt {uri : String} {notebook : Notebook}
    (h : session.workspace.get? uri = some notebook) :
    notebook.incarnation < session.workspace.opened
  uri_eq_of_incarnation_eq {uri uri' : String} {notebook notebook' : Notebook}
    (h : session.workspace.get? uri = some notebook)
    (h' : session.workspace.get? uri' = some notebook')
    (heq : notebook.incarnation = notebook'.incarnation) : uri = uri'
  retired_lt {incarnation : Nat} (h : incarnation ∈ session.board.retired) :
    incarnation < session.workspace.opened

theorem sound_start (language : Text) (delimiter : Delimiter) (publishes : Bool) :
    (start language delimiter publishes).Sound := by
  constructor <;> simp [start, Workspace.empty, Workspace.get?, Board.empty]

variable {session after : Session} {uri : String} {notebook changed : Notebook}

/-- Only the notebook that is put back is another after it. -/
theorem Sound.get?_put (h : session.Sound) (hopen : session.workspace.get? uri = some notebook)
    (hnext : notebook.Next changed) (other : String) :
    (session.put changed).workspace.get? other =
      if other = uri then some changed else session.workspace.get? other := by
  rw [put, Workspace.get?_put, hnext.uri_eq, h.uri_eq hopen]

/-- A session is sound if every notebook in it comes from one in a sound session. -/
theorem Sound.of_next (h : session.Sound)
    (hnext : ∀ uri changed, after.workspace.get? uri = some changed →
      ∃ notebook, session.workspace.get? uri = some notebook ∧ notebook.Next changed)
    (hopened : session.workspace.opened ≤ after.workspace.opened)
    (hretired : ∀ incarnation ∈ after.board.retired, incarnation < after.workspace.opened) :
    after.Sound := by
  constructor
  · intro uri changed hchanged
    obtain ⟨notebook, hopen, hnext⟩ := hnext uri changed hchanged
    rw [hnext.uri_eq, h.uri_eq hopen]
  · intro uri changed hchanged
    obtain ⟨notebook, hopen, hnext⟩ := hnext uri changed hchanged
    exact (h.keepsIndex hopen).next hnext
  · intro uri changed hchanged
    obtain ⟨notebook, hopen, hnext⟩ := hnext uri changed hchanged
    rw [hnext.incarnation_eq]
    exact Nat.lt_of_lt_of_le (h.incarnation_lt hopen) hopened
  · intro uri uri' changed changed' hchanged hchanged' heq
    obtain ⟨notebook, hopen, hnotebook⟩ := hnext uri changed hchanged
    obtain ⟨notebook', hopen', hnotebook'⟩ := hnext uri' changed' hchanged'
    rw [hnotebook.incarnation_eq, hnotebook'.incarnation_eq] at heq
    exact h.uri_eq_of_incarnation_eq hopen hopen' heq
  · intro incarnation hmem
    exact hretired incarnation hmem

theorem Sound.put (h : session.Sound) (hopen : session.workspace.get? uri = some notebook)
    (hnext : notebook.Next changed) : (session.put changed).Sound := by
  apply h.of_next
  · intro other found hfound
    rw [h.get?_put hopen hnext] at hfound
    split at hfound
    · next heq =>
      obtain rfl := Option.some.inj hfound
      exact ⟨notebook, heq ▸ hopen, hnext⟩
    · exact ⟨found, hfound, .refl found⟩
  · exact Nat.le_refl _
  · exact fun _ hmem ↦ h.retired_lt hmem

theorem Sound.withBoard (h : session.Sound) {board : Board}
    (hretired : ∀ incarnation ∈ board.retired, incarnation < session.workspace.opened) :
    Sound { session with board } :=
  h.of_next (fun _ found hfound ↦ ⟨found, hfound, .refl found⟩) (Nat.le_refl _) hretired

theorem Sound.clear (h : session.Sound) (hopen : session.workspace.get? uri = some notebook) :
    Sound { session with board := (session.board.clear notebook).value.2 } := by
  apply h.withBoard
  intro incarnation hmem
  rcases Board.mem_retired_clear.1 hmem with rfl | hmem
  · exact h.incarnation_lt hopen
  · exact h.retired_lt hmem

theorem Sound.closeNotebook (h : session.Sound)
    (hopen : session.workspace.get? uri = some notebook) :
    Sound { session with workspace := (session.workspace.closeNotebook uri).value.2 } := by
  have hopened := Workspace.opened_closeNotebook session.workspace uri
  apply h.of_next
  · intro other found hfound
    rw [Workspace.get?_closeNotebook hopen] at hfound
    split at hfound
    · simp at hfound
    · exact ⟨found, hfound, .refl found⟩
  · exact Nat.le_of_eq hopened.symm
  · intro incarnation hmem
    rw [hopened]
    exact h.retired_lt hmem

/-- An incarnation that was not there before is no other's. -/
theorem Sound.openNotebook (h : session.Sound) {cells : List Cell}
    {opened : Traced (Notebook × Workspace)}
    (hopened : session.workspace.openNotebook uri cells = .ok opened) :
    Sound { session with workspace := opened.value.2 } := by
  obtain ⟨_, -, hnotebook, hworkspace⟩ := Workspace.openNotebook_eq_ok hopened
  have hget := Workspace.get?_openNotebook hopened
  have hcount : opened.value.2.opened = session.workspace.opened + 1 := by
    rw [hworkspace]
  constructor
  · intro other found hfound
    rw [hget] at hfound
    split at hfound
    · next heq =>
      obtain rfl := Option.some.inj hfound
      rw [hnotebook, heq]
    · exact h.uri_eq hfound
  · intro other found hfound
    rw [hget] at hfound
    split at hfound
    · obtain rfl := Option.some.inj hfound
      rw [hnotebook]
      exact nofun
    · exact h.keepsIndex hfound
  · intro other found hfound
    rw [hget] at hfound
    rw [hcount]
    split at hfound
    · obtain rfl := Option.some.inj hfound
      rw [hnotebook]
      exact Nat.lt_succ_self _
    · exact Nat.lt_succ_of_lt (h.incarnation_lt hfound)
  · intro first second found found' hfirst hsecond heq
    rw [hget] at hfirst hsecond
    have hfresh {found : Notebook} {other : String}
        (hfound : session.workspace.get? other = some found) :
        found.incarnation ≠ opened.value.1.incarnation := by
      rw [hnotebook]
      exact Nat.ne_of_lt (h.incarnation_lt hfound)
    split at hfirst <;> split at hsecond
    · next hfirstUri hsecondUri => rw [hfirstUri, hsecondUri]
    · obtain rfl := Option.some.inj hfirst
      exact absurd heq.symm (hfresh hsecond)
    · obtain rfl := Option.some.inj hsecond
      exact absurd heq (hfresh hfirst)
    · exact h.uri_eq_of_incarnation_eq hfirst hsecond heq
  · intro incarnation hmem
    rw [hcount]
    exact Nat.lt_succ_of_lt (h.retired_lt hmem)

/-- Steps keep a session sound. -/
theorem Sound.step {origin : Session} {call : Call} {sent : CellDiagnostics} (h : session.Sound)
    (hstep : Step origin call session sent after) : after.Sound := by
  cases hstep with
  | put hopen hnext => exact h.put hopen hnext
  | close hopen _ => exact (h.clear hopen).closeNotebook hopen
  | forget hheld => exact h.withBoard fun _ hmem ↦ h.retired_lt hmem
  | openNotebook hopened => exact h.openNotebook hopened
  | clear hopen => exact h.clear hopen

/-- Traces keep a session sound. -/
theorem Sound.trace {origin : Session} {call : Call} {sent : CellDiagnostics} (h : session.Sound)
    (htrace : Trace origin call session sent after) : after.Sound := by
  induction htrace with
  | refl => exact h
  | step hstep _ ih => exact ih (h.step hstep)

theorem Sound.finish (h : session.Sound) (pass : Pass) :
    Sound { session with board := (session.board.finish pass).value.2 } := by
  apply h.withBoard
  rw [Board.retired_finish]
  exact fun _ hmem ↦ h.retired_lt hmem

theorem Sound.begin {desk begun : Desk} (h : desk.session.Sound) {analyzed : Option Int}
    {pass : Pass} (hbegin : desk.begin? uri analyzed = some (pass, begun)) :
    begun.session.Sound := by
  obtain ⟨notebook, hopen, -, -, -, rfl⟩ := Desk.begin_eq_some hbegin
  exact h.put hopen (Notebook.next_readIndex notebook)

/-- Requests at any depth keep a session sound. -/
theorem keeps_sound (G : Request × Desk → Prop) :
    Course.Keeps G fun course ↦ course.desk.session.Sound where
  call course call _ h := h.trace (Desk.trace_call course.desk call)
  pass_over _ _ _ _ _ h := h
  begin _ _ _ _ _ _ hbegin _ h := h.begin hbegin
  land _ _ _ _ _ _ _ _ _ hread := hread.finish _

theorem Sound.handle {desk : Desk} (h : desk.session.Sound) (request : Request) :
    (request.handle desk).desk.session.Sound :=
  (keeps_sound fun _ ↦ True).after ⟨desk, [], []⟩ request (fun _ _ ↦ trivial) h

end Session

end CellWeave
