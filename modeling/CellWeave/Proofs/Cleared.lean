import CellWeave.Proofs.Ended
import CellWeave.Proofs.Exact
import CellWeave.Proofs.Sound
/-!
# Cleared for good

Clearing is about one notebook, not about its uri. The first clear of a notebook names its cells and
those remembered under its uri. Every later one, and every projection of the notebook that ends
later, gives nothing. As long as a notebook is not cleared itself, its projections are exact.
-/

namespace CellWeave

namespace Board

/-! ## Places and incarnations -/

/-- Notebooks have their places as incarnations, and those that are retired have a place. -/
structure Desk.Numbered (desk : Desk) : Prop where
  incarnation_eq {place : Nat} {notebook : Notebook} (h : desk.notebook? place = some notebook) :
    notebook.incarnation = place
  retired_lt {place : Nat} (h : place ∈ desk.board.retired) : place < desk.notebooks.length

namespace Desk

variable {desk : Desk} {place : Nat} {notebook : Notebook}

theorem isSome_notebook?_iff : (desk.notebook? place).isSome ↔ place < desk.notebooks.length := by
  rw [notebook?, Option.isSome_map, isSome_getElem?]

theorem Numbered.withBoard (h : desk.Numbered) {board : Board}
    (hretired : board.retired = desk.board.retired) : Numbered { desk with board } :=
  ⟨h.incarnation_eq, fun hplace ↦ h.retired_lt (hretired ▸ hplace)⟩

/-- A notebook that reads its index keeps its number. -/
theorem Numbered.put (h : desk.Numbered) (hopen : desk.notebook? place = some notebook) :
    (desk.put place notebook.readIndex.value.2).Numbered := by
  constructor
  · intro other found hfound
    simp only [notebook?, Desk.put, List.getElem?_modify] at hfound
    obtain ⟨own, hown, rfl⟩ := Option.map_eq_some_iff.1 hfound
    obtain ⟨before, hbefore, rfl⟩ := Option.map_eq_some_iff.1 hown
    split
    · next heq =>
      rw [Notebook.incarnation_readIndex, h.incarnation_eq hopen, heq]
    · apply h.incarnation_eq
      rw [notebook?, hbefore]
      rfl
  · intro other hother
    rw [Desk.put, List.length_modify]
    exact h.retired_lt hother

theorem Numbered.clear (h : desk.Numbered) (hopen : desk.notebook? place = some notebook) :
    Numbered { desk with board := (desk.board.clear notebook).value.2 } := by
  refine ⟨h.incarnation_eq, ?_⟩
  intro other hother
  rcases mem_retired_clear.1 hother with rfl | hother
  · rw [h.incarnation_eq hopen]
    exact isSome_notebook?_iff.1 (Option.isSome_of_eq_some hopen)
  · exact h.retired_lt hother

theorem Numbered.push (h : desk.Numbered) {own : Notebook.Desk}
    (hown : own.notebook.incarnation = desk.notebooks.length) :
    Numbered { desk with notebooks := desk.notebooks ++ [own] } := by
  constructor
  · intro other found hfound
    rw [notebook?, List.getElem?_append] at hfound
    split at hfound
    · exact h.incarnation_eq hfound
    · next hlt =>
      rw [List.getElem?_singleton] at hfound
      split at hfound
      · obtain rfl := Option.some.inj hfound
        dsimp only
        omega
      · exact absurd hfound nofun
  · intro other hother
    rw [List.length_append]
    exact Nat.lt_add_right _ (h.retired_lt hother)

/-- A notebook that is added comes last and is numbered by its place. -/
theorem exists_of_add {uri : String} {delimiter : Text} {version : Int}
    {cells : Option (List Cell)} {added : Desk}
    (hadded : desk.add uri delimiter version cells = .ok added) :
    ∃ own : Notebook.Desk, own.notebook.incarnation = desk.notebooks.length ∧
      added = { desk with notebooks := desk.notebooks ++ [own] } := by
  obtain ⟨delimiter, -, hadded⟩ := bind_eq_ok_iff.1 hadded
  cases cells with
  | none =>
    obtain rfl := Except.ok.inj hadded
    exact ⟨_, rfl, rfl⟩
  | some cells =>
    obtain ⟨notebook, hnotebook, hadded⟩ := bind_eq_ok_iff.1 hadded
    obtain rfl := Except.ok.inj hadded
    obtain ⟨table, -, rfl⟩ := Notebook.replaceCells_eq_ok_iff.1 hnotebook
    exact ⟨_, rfl, rfl⟩

theorem Numbered.add (h : desk.Numbered) {uri : String} {delimiter : Text} {version : Int}
    {cells : Option (List Cell)} {added : Desk}
    (hadded : desk.add uri delimiter version cells = .ok added) :
    added.Numbered := by
  obtain ⟨own, hown, rfl⟩ := exists_of_add hadded
  exact h.push hown

theorem board_within (desk : Desk) (place : Nat) (request : Notebook.Request) :
    (desk.within place request).state.board = desk.board := by
  unfold Desk.within
  split <;> rfl

theorem Numbered.within (h : desk.Numbered) (place : Nat) (request : Notebook.Request) :
    (desk.within place request).state.Numbered := by
  unfold Desk.within
  split
  · next own hown =>
    constructor
    · intro other found hfound
      simp only [notebook?, List.getElem?_set] at hfound
      split at hfound
      · next heq =>
        subst heq
        rw [if_pos (List.getElem?_eq_some_iff.1 hown).1] at hfound
        obtain rfl := Option.some.inj hfound
        rw [(Notebook.next_handle own request).incarnation_eq]
        apply h.incarnation_eq
        rw [notebook?, hown]
        rfl
      · exact h.incarnation_eq hfound
    · intro other hother
      rw [List.length_set]
      exact h.retired_lt hother
  · exact h

/-- Calls keep the numbers of the notebooks. -/
theorem Numbered.call (h : desk.Numbered) (call : Call) : (desk.call call).state.Numbered := by
  cases call with
  | projectFix place fix =>
    simp only [Desk.call, Desk.onNotebook]
    split
    · next notebook hopen => exact h.put hopen
    · exact h
  | clear place =>
    simp only [Desk.call, Desk.onNotebook]
    split
    · next notebook hopen => exact h.clear hopen
    · exact h
  | clearCell uri cell => exact h.withBoard rfl
  | markedCells uri => exact h
  | add uri delimiter version cells =>
    simp only [Desk.call]
    split
    · next added hadded => exact h.add hadded
    · exact h
  | within place request => exact h.within place request

/-- Whatever a request does, places and incarnations stay the same. -/
theorem Numbered.keeps : Keeps Numbered where
  call h call := h.call call
  begin h hopen := h.put hopen
  finish _ _ _ _ hlast := hlast.withBoard (retired_finish _ _)

theorem Reached.numbered (h : desk.Reached) : desk.Numbered :=
  h.of_keeps Numbered.keeps ⟨nofun, nofun⟩

end Desk

/-! ## What is retired -/

/-- The request clears the notebook that is at the place. -/
def clears (place : Nat) : Request × Desk → Bool
  | (.call (.clear other), desk) => other = place && (desk.notebook? place).isSome
  | _ => false

variable {desk : Desk} {place : Nat}

theorem clears_call_iff {call : Call} :
    clears place (.call call, desk) ↔ call = .clear place ∧ (desk.notebook? place).isSome := by
  cases call <;> simp [clears]

theorem not_clears_project {other : Nat} {findings : Stream} {analyzed : Option Int} :
    ¬ clears place (.project other findings analyzed, desk) :=
  Bool.false_ne_true

theorem retired_call_of_ne {call : Call} (h : ∀ place, call ≠ .clear place) :
    (desk.call call).state.board.retired = desk.board.retired := by
  cases call with
  | projectFix other fix =>
    simp only [Desk.call, Desk.onNotebook]
    split <;> rfl
  | clear other => exact absurd rfl (h other)
  | clearCell | markedCells => rfl
  | add uri delimiter version cells =>
    simp only [Desk.call]
    split
    · next added hadded =>
      obtain ⟨own, -, rfl⟩ := Desk.exists_of_add hadded
      rfl
    · rfl
  | within other request => exact congrArg Board.retired (desk.board_within other request)

/-- The only call that retires a notebook is the one that clears it. -/
theorem mem_retired_call (h : desk.Numbered) (call : Call) :
    place ∈ (desk.call call).state.board.retired ↔
      place ∈ desk.board.retired ∨ clears place (.call call, desk) := by
  rw [clears_call_iff]
  by_cases hclear : ∃ other, call = .clear other
  · obtain ⟨other, rfl⟩ := hclear
    simp only [Desk.call, Desk.onNotebook, Call.clear.injEq]
    split
    · next notebook hopen =>
      rw [mem_retired_clear, h.incarnation_eq hopen, or_comm, eq_comm]
      apply or_congr_right
      rw [iff_self_and]
      rintro rfl
      exact Option.isSome_of_eq_some hopen
    · next hnone =>
      refine (or_iff_left ?_).symm
      rintro ⟨rfl, hsome⟩
      rw [hnone] at hsome
      exact Bool.false_ne_true hsome
  · rw [retired_call_of_ne (not_exists.1 hclear), or_iff_left]
    exact fun hcall ↦ hclear ⟨place, hcall.1⟩

/-- The end of a clear is where a notebook is retired. -/
theorem mem_retired_handle (h : desk.Numbered) (request : Request) :
    place ∈ (request.handle desk).state.board.retired ↔
      place ∈ (request.last desk).board.retired ∨ clears place (request, desk) := by
  cases request with
  | call call => exact mem_retired_call h call
  | project other findings analyzed =>
    rw [or_iff_left not_clears_project]
    cases hbegin : desk.begin? other analyzed with
    | none => rw [(handle_project_of_none findings hbegin).1, last_project_of_none findings hbegin]
    | some begun =>
      obtain ⟨pass, begun⟩ := begun
      obtain ⟨during, log, hhandle⟩ := handle_project_of_begin findings hbegin
      rw [hhandle, last_project_of_begin findings hbegin, retired_finish]

/-- The retired notebooks are those that were cleared by the requests that ended. -/
theorem Chain.mem_retired_iff {first last : Board} {items : List (Request × Desk)}
    (h : Chain first items last) (hnumbered : ∀ item ∈ items, item.2.Numbered) :
    place ∈ last.retired ↔ place ∈ first.retired ∨ items.any (clears place) := by
  induction h with
  | nil => simp
  | @cons request desk rest last _ ih =>
    obtain ⟨hdesk, hrest⟩ := List.forall_mem_cons.1 hnumbered
    rw [ih hrest, mem_retired_handle hdesk, List.any_cons, Bool.or_eq_true, or_assoc]

/-! ## Clearing is final -/

/-- What a request does that ends after the requests `before`, if it clears a notebook or projects
one. It is of no account whether other notebooks were cleared, also under the same uri. -/
structure Settled (before : List (Request × Desk)) (request : Request) (desk : Desk) : Prop where
  /-- Up to here the board was changed at the ends of requests only. -/
  chain : Chain .empty before (request.last desk).board
  clear_again {place : Nat} (h : request = .call (.clear place))
    (hcleared : before.any (clears place)) :
    (request.handle desk).reply = .ok (.projected [] []) ∧ (request.handle desk).state = desk
  clear_first {place : Nat} {notebook : Notebook} (h : request = .call (.clear place))
    (hopen : desk.notebook? place = some notebook)
    (hcleared : ¬ before.any (clears place)) :
    ∃ byCell, (request.handle desk).reply = .ok (.projected byCell []) ∧ byCell.keys.Nodup ∧
      (∀ cell, cell ∈ byCell.keys ↔
        cell ∈ notebook.uris ∨ cell ∈ desk.board.markedCells notebook.uri) ∧
      ∀ entry ∈ byCell, entry.2 = []
  /-- It may have been reading its findings when the notebook was cleared. -/
  project_after {place : Nat} {findings : Stream} {analyzed : Option Int}
    (h : request = .project place findings analyzed)
    (hcleared : before.any (clears place)) :
    (∃ during, (request.handle desk).reply = .ok (.projected [] during)) ∧
      ∀ uri, (request.handle desk).state.board.markedCells uri =
        (request.last desk).board.markedCells uri
  project_before {place : Nat} {findings : Stream} {analyzed : Option Int} {notebook : Notebook}
    (h : request = .project place findings analyzed)
    (hopen : desk.notebook? place = some notebook)
    (hversion : ∀ version, analyzed = some version → version = notebook.version)
    (hcleared : ¬ before.any (clears place)) :
    ∃ byCell during, (request.handle desk).reply = .ok (.projected byCell during) ∧
      byCell.Exact notebook findings.findings
        ((request.last desk).board.rememberedCells notebook.uri) ∧
      ∀ cell, cell ∈ (request.handle desk).state.board.markedCells notebook.uri ↔
        ∃ diagnostics ≠ [], (cell, diagnostics) ∈ byCell

variable {notebook : Notebook}

theorem handle_clear (hopen : desk.notebook? place = some notebook) :
    ((Request.call (.clear place)).handle desk).reply =
        .ok (.projected (desk.board.clear notebook).value.1 []) ∧
      ((Request.call (.clear place)).handle desk).state =
        { desk with board := (desk.board.clear notebook).value.2 } := by
  rw [Request.handle, Desk.call, Desk.onNotebook, hopen]
  exact ⟨rfl, rfl⟩

/-- A notebook that was cleared is not cleared again. -/
theorem handle_clear_of_retired (h : desk.Numbered) (hretired : place ∈ desk.board.retired) :
    ((Request.call (.clear place)).handle desk).reply = .ok (.projected [] []) ∧
      ((Request.call (.clear place)).handle desk).state = desk := by
  obtain ⟨notebook, hopen⟩ :=
    Option.isSome_iff_exists.1 (Desk.isSome_notebook?_iff.2 (h.retired_lt hretired))
  obtain ⟨hreply, hstate⟩ := handle_clear hopen
  rw [← h.incarnation_eq hopen] at hretired
  rw [hreply, hstate, clear_of_retired hretired]
  exact ⟨rfl, rfl⟩

/-- The first time, each cell that is there or is marked gets an empty list. -/
theorem handle_clear_of_not_retired (h : desk.Reached)
    (hopen : desk.notebook? place = some notebook) (hretired : place ∉ desk.board.retired) :
    ∃ byCell, ((Request.call (.clear place)).handle desk).reply = .ok (.projected byCell []) ∧
      byCell.keys.Nodup ∧
      (∀ cell, cell ∈ byCell.keys ↔
        cell ∈ notebook.uris ∨ cell ∈ desk.board.markedCells notebook.uri) ∧
      ∀ entry ∈ byCell, entry.2 = [] := by
  rw [← h.numbered.incarnation_eq hopen] at hretired
  refine ⟨_, (handle_clear hopen).1, ?_⟩
  rw [clear_of_not_retired hretired]
  refine ⟨?_, ?_, ?_⟩
  · apply CellDiagnostics.nodup_keys_withLeftovers _ (h.wellKept.nodup_remembered notebook.uri)
    rw [CellDiagnostics.keys_blank]
    exact notebook.nodup_uris
  · intro cell
    rw [CellDiagnostics.mem_keys_withLeftovers, CellDiagnostics.keys_blank, mem_markedCells]
  · intro entry hentry
    rw [CellDiagnostics.withLeftovers_blank] at hentry
    obtain ⟨cell, -, rfl⟩ := List.mem_map.1 hentry
    rfl

variable {findings : Stream} {analyzed : Option Int}

/-- A projection whose notebook is retired by its end gives nothing. -/
theorem handle_project_of_retired (h : desk.Numbered)
    (hretired : place ∈ ((Request.project place findings analyzed).last desk).board.retired) :
    (∃ during, ((Request.project place findings analyzed).handle desk).reply =
        .ok (.projected [] during)) ∧
      ((Request.project place findings analyzed).handle desk).state.board =
        ((Request.project place findings analyzed).last desk).board := by
  cases hbegin : desk.begin? place analyzed with
  | none =>
    rw [last_project_of_none findings hbegin] at hretired ⊢
    obtain ⟨notebook, hopen⟩ :=
      Option.isSome_iff_exists.1 (Desk.isSome_notebook?_iff.2 (h.retired_lt hretired))
    obtain ⟨hstate, hreply⟩ := handle_project_of_none findings hbegin
    exact ⟨⟨[], hreply notebook hopen⟩, congrArg Desk.board hstate⟩
  | some begun =>
    obtain ⟨pass, begun⟩ := begun
    rw [last_project_of_begin findings hbegin] at hretired ⊢
    obtain ⟨during, log, hhandle⟩ := handle_project_of_begin findings hbegin
    obtain ⟨notebook, kept, hopen, hstart, rfl⟩ := Desk.begin?_eq_some_iff.1 hbegin
    obtain ⟨-, -, hpass, -⟩ := Board.start_eq_some hstart
    have hpassRetired : (pass.readAll findings.findings).value.incarnation ∈
        ((desk.put place kept).after findings.requests).board.retired := by
      rwa [(pass.readAll_keeps findings.findings).2.1, hpass, h.incarnation_eq hopen]
    rw [hhandle, finish_of_retired hpassRetired]
    exact ⟨⟨during, rfl⟩, rfl⟩

/-- A projection whose notebook is not retired by its end is exact. -/
theorem handle_project_of_not_retired (h : desk.Reached)
    (hopen : desk.notebook? place = some notebook)
    (hversion : ∀ version, analyzed = some version → version = notebook.version)
    (hretired : place ∉ ((Request.project place findings analyzed).last desk).board.retired) :
    ∃ byCell during, ((Request.project place findings analyzed).handle desk).reply =
        .ok (.projected byCell during) ∧
      byCell.Exact notebook findings.findings
        (((Request.project place findings analyzed).last desk).board.rememberedCells
          notebook.uri) ∧
      ∀ cell, cell ∈ ((Request.project place findings analyzed).handle
          desk).state.board.markedCells notebook.uri ↔
        ∃ diagnostics ≠ [], (cell, diagnostics) ∈ byCell := by
  cases hbegin : desk.begin? place analyzed with
  | none =>
    rw [last_project_of_none findings hbegin, ← h.numbered.incarnation_eq hopen] at hretired
    rw [Desk.begin?, hopen, Option.bind_some, Option.map_eq_none_iff] at hbegin
    exact absurd hbegin (start_ne_none hversion hretired)
  | some begun =>
    obtain ⟨pass, begun⟩ := begun
    have hlast := h.last (.project place findings analyzed)
    rw [last_project_of_begin findings hbegin] at hretired hlast ⊢
    obtain ⟨during, log, hhandle⟩ := handle_project_of_begin findings hbegin
    obtain ⟨other, kept, hother, hstart, rfl⟩ := Desk.begin?_eq_some_iff.1 hbegin
    obtain rfl := Option.some.inj (hopen.symm.trans hother)
    have hkeeps := h.wellKept.of_notebook? hopen
    have hspared : notebook.incarnation ∉
        ((desk.put place kept).after findings.requests).board.retired := by
      rwa [h.numbered.incarnation_eq hopen]
    obtain ⟨hexact, hmarked⟩ := exact_finish hkeeps hstart findings.findings
      (hlast.wellKept.nodup_remembered notebook.uri) hspared
    rw [hhandle]
    exact ⟨_, during, rfl, hexact, hmarked⟩

/-- Clearing a notebook is final, and is about that notebook alone. -/
theorem settled_of_ended {requests : List Request} {before after : List (Request × Desk)}
    {request : Request}
    (h : Desk.empty.ended requests = before ++ (request, desk) :: after) :
    Settled before request desk := by
  have hreached : ∀ item ∈ before ++ (request, desk) :: after, item.2.Reached := by
    rw [← h]
    exact fun item hitem ↦ Desk.reached_of_mem_ended .empty hitem
  obtain ⟨hbefore, hrest⟩ := List.forall_mem_append.1 hreached
  have hdesk : desk.Reached := hrest _ List.mem_cons_self
  have hchain := Desk.empty.chain_ended requests
  rw [h] at hchain
  have hretired (place : Nat) : place ∈ (request.last desk).board.retired ↔
      before.any (clears place) := by
    rw [hchain.upTo.mem_retired_iff fun item hitem ↦ (hbefore item hitem).numbered]
    exact or_iff_right List.not_mem_nil
  constructor
  · exact hchain.upTo
  · rintro place rfl hcleared
    exact handle_clear_of_retired hdesk.numbered ((hretired place).2 hcleared)
  · rintro place notebook rfl hopen hcleared
    exact handle_clear_of_not_retired hdesk hopen (mt (hretired place).1 hcleared)
  · rintro place findings analyzed rfl hcleared
    obtain ⟨hreply, hboard⟩ :=
      handle_project_of_retired hdesk.numbered ((hretired place).2 hcleared)
    exact ⟨hreply, fun uri ↦ by rw [hboard]⟩
  · rintro place findings analyzed notebook rfl hopen hversion hcleared
    exact handle_project_of_not_retired hdesk hopen hversion (mt (hretired place).1 hcleared)

/-- One finding, in the first line of the document. -/
def oneFinding (rest : Stream) : Stream :=
  .finding ⟨"r", "m", some (.of 1 0 1 1), none, [], []⟩ rest

/-- The projection of a notebook in whose findings it is cleared. -/
def selfClearing : Request :=
  .project 0 (oneFinding (.request (.call (.clear 0)) (oneFinding .done))) none

/-- Two notebooks under one uri. The second has diagnostics, then the first is cleared while it is
projected, then the second is projected again. -/
def twins : List Request :=
  [.call (.add "u" Delimiter.default.text 0 (some [⟨"a", ['x'], 0⟩])),
    .call (.add "u" Delimiter.default.text 0 (some [⟨"b", ['y'], 0⟩])),
    .project 1 (oneFinding .done) none, selfClearing, .project 1 (oneFinding .done) none]

/-- The first twin is cleared in its own projection, and the second is projected as before. -/
theorem settled_of_ended_twins :
    (∃ during, (selfClearing.handle (Desk.empty.after (twins.take 3))).reply =
      .ok (.projected [] during)) ∧
    ∃ notebook byCell during,
      (Desk.empty.after (twins.take 4)).notebook? 1 = some notebook ∧
      ((Request.project 1 (oneFinding .done) none).handle
        (Desk.empty.after (twins.take 4))).reply = .ok (.projected byCell during) ∧
      byCell.Exact notebook (oneFinding .done).findings
        (((Request.project 1 (oneFinding .done) none).last
          (Desk.empty.after (twins.take 4))).board.rememberedCells notebook.uri) := by
  obtain ⟨before, hself⟩ := Desk.empty.exists_ended_concat (twins.take 3) selfClearing
  obtain ⟨before', htwin⟩ :=
    Desk.empty.exists_ended_concat (twins.take 4) (.project 1 (oneFinding .done) none)
  have hcleared : before.any (clears 0) := by
    have hany : (Desk.empty.ended (twins.take 3 ++ [selfClearing])).any (clears 0) := by
      decide +kernel
    rw [hself] at hany
    simpa [selfClearing, clears] using hany
  have hspared : ¬ before'.any (clears 1) := by
    have hany : ¬ (Desk.empty.ended
        (twins.take 4 ++ [.project 1 (oneFinding .done) none])).any (clears 1) := by
      decide +kernel
    rw [htwin] at hany
    simpa [clears] using hany
  obtain ⟨notebook, hopen⟩ : ∃ notebook,
      (Desk.empty.after (twins.take 4)).notebook? 1 = some notebook :=
    Option.isSome_iff_exists.1 (by decide +kernel)
  obtain ⟨byCell, during, hreply, hexact, -⟩ :=
    (settled_of_ended htwin).project_before rfl hopen nofun hspared
  exact ⟨((settled_of_ended hself).project_after rfl hcleared).1, notebook, byCell, during, hopen,
    hreply, hexact⟩

end Board

end CellWeave
