import CellWeave.Proofs.Pass
import Mathlib.Data.List.Induction
/-!
# What the editor shows

The editor shows for each cell the diagnostics it was sent last. As long as no cell is used in two
notebooks, these are there for the very cells that the board remembers, after every request and also
in the middle of a projection. So no diagnostics stay behind that the board knows nothing of.
-/

namespace CellWeave

/-- The diagnostics that were sent last for a cell. -/
def shown (sent : CellDiagnostics) (cell : String) : List Diagnostic :=
  (Table.get? sent.reverse cell).getD []

theorem shown_concat (sent : CellDiagnostics) (name : String) (diagnostics : List Diagnostic)
    (cell : String) : shown (sent ++ [(name, diagnostics)]) cell =
      if cell = name then diagnostics else shown sent cell := by
  rw [shown, List.reverse_append, List.reverse_singleton, List.singleton_append, Table.get?_cons]
  split <;> rfl

/-- What is sent for other cells does not change what a cell shows. -/
theorem shown_append_of_notMem (sent : CellDiagnostics) {later : CellDiagnostics} {cell : String}
    (h : cell ∉ later.keys) : shown (sent ++ later) cell = shown sent cell := by
  induction later using List.reverseRecOn with
  | nil => rw [List.append_nil]
  | append_singleton front entry ih =>
    rw [Table.keys, List.map_append, List.mem_append, not_or] at h
    rw [← List.append_assoc, shown_concat, if_neg (by simpa using h.2), ih h.1]

/-- A set of diagnostics that names each cell once takes the place of those for its cells. -/
theorem shown_append_of_nodup (sent : CellDiagnostics) {later : CellDiagnostics}
    (hlater : later.keys.Nodup) {cell : String} {diagnostics : List Diagnostic}
    (h : (cell, diagnostics) ∈ later) : shown (sent ++ later) cell = diagnostics := by
  induction later using List.reverseRecOn with
  | nil => exact absurd h List.not_mem_nil
  | append_singleton front entry ih =>
    rw [Table.keys, List.map_append, List.nodup_append] at hlater
    rw [← List.append_assoc, shown_concat]
    rcases List.mem_append.1 h with h | h
    · have hne : cell ≠ entry.1 :=
        hlater.2.2 cell (Table.mem_keys_of_mem h) entry.1 (by simp)
      rw [if_neg hne, ih hlater.1 h]
    · obtain rfl := List.mem_singleton.1 h
      rw [if_pos rfl]

theorem shown_append_blank (sent : CellDiagnostics) (cells : List String) (cell : String) :
    shown (sent ++ CellDiagnostics.blank cells) cell =
      if cell ∈ cells then [] else shown sent cell := by
  induction cells using List.reverseRecOn with
  | nil => simp [CellDiagnostics.blank]
  | append_singleton front last ih =>
    have hblank : CellDiagnostics.blank (front ++ [last]) =
        CellDiagnostics.blank front ++ [(last, [])] :=
      List.map_append
    rw [hblank, ← List.append_assoc, shown_concat, ih]
    by_cases hlast : cell = last <;> simp [hlast]

/-- A set of diagnostics and the leftovers show its diagnostics, and nothing for the leftovers. -/
theorem shown_append_withLeftovers (sent : CellDiagnostics) {byCell : CellDiagnostics}
    (hkeys : byCell.keys.Nodup) {before : List String} {cell : String}
    (hbefore : shown sent cell ≠ [] → cell ∈ before) :
    shown (sent ++ byCell.withLeftovers before) cell ≠ [] ↔ cell ∈ byCell.withIssues := by
  rw [CellDiagnostics.withLeftovers, ← List.append_assoc, shown_append_blank,
    CellDiagnostics.mem_withIssues]
  by_cases hcell : cell ∈ byCell.keys
  · obtain ⟨⟨_, diagnostics⟩, hentry, rfl⟩ := List.mem_map.1 hcell
    rw [if_neg (fun h ↦ (CellDiagnostics.mem_leftovers.1 h).2 hcell),
      shown_append_of_nodup sent hkeys hentry]
    constructor
    · exact fun hne ↦ ⟨diagnostics, hne, hentry⟩
    · rintro ⟨others, hne, hothers⟩
      have heq := (Table.get?_eq_some_iff hkeys).2 hentry
      rw [(Table.get?_eq_some_iff hkeys).2 hothers] at heq
      rwa [← Option.some.inj heq]
  · have hnone : ¬ ∃ diagnostics ≠ [], (cell, diagnostics) ∈ byCell := by
      rintro ⟨diagnostics, -, hentry⟩
      exact hcell (Table.mem_keys_of_mem hentry)
    rw [iff_false_right hnone, ne_eq, not_not, ite_eq_left_iff, shown_append_of_notMem sent hcell]
    intro hleft
    by_contra hshown
    exact hleft (CellDiagnostics.mem_leftovers.2 ⟨hbefore hshown, hcell⟩)

/-! ## Showing what is remembered -/

/-- The editor shows diagnostics for the cells that the board remembers, and the board remembers
cells only under the uris they are used under. -/
structure Shows (used : String → String → Prop) (sent : CellDiagnostics) (board : Board) :
    Prop where
  used_of_remembered {uri cell : String} (h : cell ∈ board.rememberedCells uri) : used uri cell
  shown_iff {uri cell : String} (h : used uri cell) :
    shown sent cell ≠ [] ↔ cell ∈ board.rememberedCells uri

namespace Shows

variable {used : String → String → Prop} {sent later : CellDiagnostics} {board after : Board}
  {uri : String}

theorem empty (used : String → String → Prop) : Shows used [] .empty := by
  constructor <;> simp [Board.empty, Board.rememberedCells, shown]

section Unique

variable (hunique : ∀ cell uri uri', used uri cell → used uri' cell → uri = uri')

include hunique in
/-- What is sent for the cells under one uri has to do with that uri only. -/
theorem send (h : Shows used sent board) (uri : String)
    (hlater : ∀ cell ∈ later.keys, used uri cell)
    (hother : ∀ other ≠ uri, after.rememberedCells other = board.rememberedCells other)
    (hused : ∀ cell ∈ after.rememberedCells uri, used uri cell)
    (hshown : ∀ cell, used uri cell →
      (shown (sent ++ later) cell ≠ [] ↔ cell ∈ after.rememberedCells uri)) :
    Shows used (sent ++ later) after := by
  constructor
  · intro other cell hcell
    by_cases heq : other = uri
    · subst heq
      exact hused cell hcell
    · rw [hother other heq] at hcell
      exact h.used_of_remembered hcell
  · intro other cell hcell
    by_cases heq : other = uri
    · subst heq
      exact hshown cell hcell
    · have hnot : cell ∉ later.keys := fun hmem ↦ heq (hunique cell _ _ hcell (hlater cell hmem))
      rw [shown_append_of_notMem sent hnot, hother other heq]
      exact h.shown_iff hcell

include hunique in
/-- After a pass the editor shows what is marked. -/
theorem finish (h : Shows used sent board) {pass : Pass} {notebook : Notebook}
    (hpass : pass.Concerns notebook) (hcells : ∀ cell ∈ notebook.uris, used notebook.uri cell) :
    Shows used (sent ++ (board.finish pass).value.1) (board.finish pass).value.2 := by
  by_cases hretired : pass.incarnation ∈ board.retired
  · rw [Board.finish_of_retired hretired]
    rwa [List.append_nil]
  · rw [Board.finish_of_not_retired hretired, hpass.notebook_eq]
    have hkeys : ∀ cell ∈ pass.byCell.keys, used notebook.uri cell :=
      fun cell hcell ↦ hcells cell (hpass.mem_keys_iff.1 hcell)
    have hissues : ∀ cell ∈ pass.byCell.withIssues, cell ∈ pass.byCell.keys := by
      intro cell hcell
      obtain ⟨diagnostics, -, hentry⟩ := CellDiagnostics.mem_withIssues.1 hcell
      exact Table.mem_keys_of_mem hentry
    apply h.send hunique notebook.uri
    · intro cell hcell
      rcases CellDiagnostics.mem_keys_withLeftovers.1 hcell with hcell | hcell
      · exact hkeys cell hcell
      · exact h.used_of_remembered hcell
    · intro other hne
      rw [Board.rememberedCells_set, if_neg hne]
    · intro cell hcell
      rw [Board.rememberedCells_set, if_pos rfl] at hcell
      exact hkeys cell (hissues cell hcell)
    · intro cell hcell
      rw [Board.rememberedCells_set, if_pos rfl]
      exact shown_append_withLeftovers sent hpass.nodup_keys (h.shown_iff hcell).1

include hunique in
theorem clear (h : Shows used sent board) {notebook : Notebook}
    (hcells : ∀ cell ∈ notebook.uris, used notebook.uri cell) :
    Shows used (sent ++ (board.clear notebook).value.1) (board.clear notebook).value.2 := by
  by_cases hretired : notebook.incarnation ∈ board.retired
  · rw [Board.clear_of_retired hretired]
    rwa [List.append_nil]
  · rw [Board.clear_of_not_retired hretired]
    apply h.send hunique notebook.uri
    · intro cell hcell
      rw [CellDiagnostics.mem_keys_withLeftovers, CellDiagnostics.keys_blank] at hcell
      rcases hcell with hcell | hcell
      · exact hcells cell hcell
      · exact h.used_of_remembered hcell
    · intro other hne
      rw [Board.rememberedCells_erase, if_neg hne]
    · intro cell hcell
      rw [Board.rememberedCells_erase, if_pos rfl] at hcell
      exact absurd hcell List.not_mem_nil
    · intro cell hcell
      rw [Board.rememberedCells_erase, if_pos rfl, CellDiagnostics.withLeftovers_blank,
        shown_append_blank, iff_false_right List.not_mem_nil, ne_eq, not_not, ite_eq_left_iff,
        List.mem_append, not_or, CellDiagnostics.mem_leftovers, CellDiagnostics.keys_blank]
      rintro ⟨hcells, hleft⟩
      by_contra hshown
      exact hleft ⟨(h.shown_iff hcell).1 hshown, hcells⟩

include hunique in
theorem clearCell (h : Shows used sent board) {cell : String} (hcell : used uri cell) :
    Shows used (sent ++ [(cell, [])]) (board.clearCell uri cell).2 := by
  apply h.send hunique uri
  · intro other hother
    obtain rfl : other = cell := by simpa [Table.keys] using hother
    exact hcell
  · intro other hne
    rw [Board.rememberedCells_clearCell, if_neg hne]
  · intro other hother
    rw [Board.rememberedCells_clearCell, if_pos rfl] at hother
    exact h.used_of_remembered (List.mem_filter.1 hother).1
  · intro other hother
    rw [Board.rememberedCells_clearCell, if_pos rfl, shown_concat, List.mem_filter]
    split
    · next heq => simp [heq]
    · next hne => simp [hne, h.shown_iff hother]

end Unique

end Shows

namespace Session

/-! ## Through a run -/

/-- The session is sound, the diagnostics that it gives are sent, and the editor shows what the
board remembers. -/
structure InStep (used : String → String → Prop) (sent : CellDiagnostics) (session : Session) :
    Prop where
  sound : session.Sound
  publishes : session.publishes = true
  shows : Shows used sent session.board

section Unique

variable {used : String → String → Prop} {sent later : CellDiagnostics}
  {origin session after : Session} {call : Call}
  (hunique : ∀ cell uri uri', used uri cell → used uri' cell → uri = uri')

theorem InStep.sent_eq (h : InStep used sent session) (byCell : CellDiagnostics) :
    session.sent byCell = byCell :=
  if_pos h.publishes

include hunique in
/-- Each step sends what it changes on the board. -/
theorem InStep.step (h : InStep used sent session)
    (hheld : ∀ uri cell, origin.Holds uri cell → used uri cell)
    (hcall : (Request.call call).clearsBoard = false)
    (hstep : Step origin call session later after) : InStep used (sent ++ later) after := by
  have hsound := h.sound.step hstep
  cases hstep with
  | put hopen hnext =>
    rw [List.append_nil]
    exact ⟨hsound, h.publishes, h.shows⟩
  | @close _ uri notebook hopen hcells =>
    rw [h.sent_eq]
    refine ⟨hsound, h.publishes, h.shows.clear hunique ?_⟩
    rw [h.sound.uri_eq hopen]
    exact fun cell hcell ↦ hheld uri cell (hcells cell hcell)
  | forget hcell =>
    rw [h.sent_eq]
    exact ⟨hsound, h.publishes, h.shows.clearCell hunique (hheld _ _ hcell)⟩
  | openNotebook hopened =>
    rw [List.append_nil]
    exact ⟨hsound, h.publishes, h.shows⟩
  | clear hopen => simp [Request.clearsBoard] at hcall

include hunique in
theorem InStep.trace (h : InStep used sent session)
    (hheld : ∀ uri cell, origin.Holds uri cell → used uri cell)
    (hcall : (Request.call call).clearsBoard = false)
    (htrace : Trace origin call session later after) : InStep used (sent ++ later) after := by
  induction htrace generalizing sent with
  | refl => rwa [List.append_nil]
  | step hstep _ ih =>
    rw [← List.append_assoc]
    exact ih (h.step hunique hheld hcall hstep)

include hunique in
/-- Requests at any depth keep the editor in step. -/
theorem keeps_inStep : Course.Keeps
    (fun item ↦ item.1.clearsBoard = false ∧
      ∀ uri cell, item.2.session.Holds uri cell → used uri cell)
    fun course ↦ InStep used course.sent course.desk.session where
  call course call hmade h := by
    have htrace := h.trace hunique hmade.2 hmade.1 (Desk.trace_call course.desk call)
    simpa [Course.after, Request.handle] using htrace
  pass_over _ _ _ _ _ h := h
  begin course uri findings analyzed pass begun hbegin _ h := by
    refine ⟨h.sound.begin hbegin, ?_, ?_⟩
    all_goals
      obtain ⟨notebook, -, -, -, -, hbegun⟩ := Desk.begin_eq_some hbegin
      dsimp only [Course.note]
      rw [hbegun]
    · exact h.publishes
    · exact h.shows
  land course uri findings analyzed pass begun hbegin hmade h hread := by
    obtain ⟨notebook, hopen, -, -, hpass, -⟩ := h.sound.concerns_of_begin hbegin
    have hcells : ∀ cell ∈ notebook.uris, used notebook.uri cell := by
      rw [h.sound.uri_eq hopen]
      intro cell hcell
      exact (hmade _ (Request.self_mem_made _ _)).2 uri cell ⟨notebook, hopen, hcell⟩
    have hshows := hread.shows.finish hunique (findings.concerns_handle begun hpass) hcells
    refine ⟨hread.sound.finish _, hread.publishes, ?_⟩
    simpa [Course.land, Desk.land, finishPass, hread.sent_eq] using hshows

end Unique

/-- At some moment of the run, a notebook that is open under the uri has the cell. -/
def Desk.Uses (desk : Desk) (requests : List Request) (uri cell : String) : Prop :=
  ∃ item ∈ desk.made requests,
    item.2.session.Holds uri cell ∨ (item.1.handle item.2).desk.session.Holds uri cell

/-- What the editor shows is what the board remembers: after every request of a run, whatever was
nested in it, the cells of a notebook for which the editor was last sent diagnostics are the marked
cells of the notebook. -/
theorem shown_iff_mem_markedCells (language : Text) (delimiter : Delimiter)
    {requests : List Request}
    (hclear : ∀ item ∈ Desk.made ⟨start language delimiter true, []⟩ requests,
      item.1.clearsBoard = false)
    (hunique : ∀ cell uri uri', Desk.Uses ⟨start language delimiter true, []⟩ requests uri cell →
      Desk.Uses ⟨start language delimiter true, []⟩ requests uri' cell → uri = uri')
    {k : Nat} {answer : Answer}
    (hanswer : (Desk.run ⟨start language delimiter true, []⟩ requests)[k]? = some answer)
    (uri cell : String) :
    Desk.Uses ⟨start language delimiter true, []⟩ requests uri cell ∧
        shown (sentIn (((Desk.run ⟨start language delimiter true, []⟩ requests).take
          (k + 1)).flatMap (·.events))) cell ≠ [] ↔
      cell ∈ answer.desk.session.board.markedCells uri := by
  have hmade : ∀ item ∈ Desk.made ⟨start language delimiter true, []⟩ requests,
      item.1.clearsBoard = false ∧ ∀ uri cell, item.2.session.Holds uri cell →
        Desk.Uses ⟨start language delimiter true, []⟩ requests uri cell :=
    fun item hitem ↦ ⟨hclear item hitem, fun uri cell hholds ↦ ⟨item, hitem, .inl hholds⟩⟩
  obtain ⟨course, hcourse, hdesk, hsent⟩ := (keeps_inStep hunique).exists_of_run hmade
    ⟨sound_start language delimiter true, rfl, Shows.empty _⟩ hanswer
  rw [hdesk, hsent] at hcourse
  rw [Board.mem_markedCells]
  constructor
  · rintro ⟨hused, hshown⟩
    exact (hcourse.shows.shown_iff hused).1 hshown
  · intro hcell
    have hused := hcourse.shows.used_of_remembered hcell
    exact ⟨hused, (hcourse.shows.shown_iff hused).2 hcell⟩

theorem Holds.mem_keys {session : Session} {uri cell : String} (h : session.Holds uri cell) :
    uri ∈ session.workspace.notebooks.keys := by
  obtain ⟨notebook, hopen, -⟩ := h
  exact Table.mem_keys_of_mem (Table.mem_of_get? hopen)

/-- A cell is taken away while findings in it are read. It is shown them all the same. -/
def cellLost : List Request :=
  [.call (.openNotebook "u" [⟨"a", ['x', feed], 0⟩, ⟨"b", ['y'], 0⟩]),
    .project "u" (.finding ⟨"r", "m", some (.of 1 0 1 1), none, [], []⟩
      (.request (.call (.changeStructure "u" [] ["a"])) .done)) none]

/-- A cell that is lost in the course of a projection is emptied at its end. -/
theorem shown_iff_mem_markedCells_cellLost :
    ∃ answer, (Desk.run .blank cellLost)[1]? = some answer ∧
      ∀ uri cell, Desk.Uses .blank cellLost uri cell ∧
          shown (sentIn (((Desk.run .blank cellLost).take 2).flatMap (·.events))) cell ≠ [] ↔
        cell ∈ answer.desk.session.board.markedCells uri := by
  have hclear : ∀ item ∈ Desk.made .blank cellLost, item.1.clearsBoard = false := by
    decide
  have hkeys : ∀ item ∈ Desk.made .blank cellLost,
      (∀ uri ∈ item.2.session.workspace.notebooks.keys, uri = "u") ∧
        ∀ uri ∈ (item.1.handle item.2).desk.session.workspace.notebooks.keys, uri = "u" := by
    decide
  have huri : ∀ uri cell, Desk.Uses .blank cellLost uri cell → uri = "u" := by
    rintro uri cell ⟨item, hitem, hholds | hholds⟩
    · exact (hkeys item hitem).1 uri hholds.mem_keys
    · exact (hkeys item hitem).2 uri hholds.mem_keys
  have hunique : ∀ cell uri uri', Desk.Uses .blank cellLost uri cell →
      Desk.Uses .blank cellLost uri' cell → uri = uri' := by
    intro cell uri uri' h h'
    rw [huri uri cell h, huri uri' cell h']
  exact ⟨_, rfl, shown_iff_mem_markedCells Notebook.standardLanguage .default hclear hunique rfl⟩

end Session

end CellWeave
