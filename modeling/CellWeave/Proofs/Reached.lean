import CellWeave.Board.Request
import CellWeave.Proofs.Document
import CellWeave.Proofs.Findings
import CellWeave.Proofs.KeptIndex
/-!
# Boards at work

A board is used together with notebooks that change between and during its projections. Whatever is
asked of them, no notebook takes an earlier index for its current one, and the board remembers a
cell once.
-/

namespace CellWeave

/-- A finding is added under a cell that has an entry, or gets one. -/
theorem Pass.nodup_keys_read {pass : Pass} (h : pass.byCell.keys.Nodup) (finding : Finding) :
    (pass.read finding).value.byCell.keys.Nodup := by
  unfold read
  dsimp only
  split
  · exact h
  · exact Table.nodup_keys_set h _ _

theorem Pass.nodup_keys_readAll {pass : Pass} (h : pass.byCell.keys.Nodup)
    (findings : List Finding) : (pass.readAll findings).value.byCell.keys.Nodup := by
  induction findings generalizing pass with
  | nil => exact h
  | cons finding rest ih => exact ih (nodup_keys_read h finding)

namespace Board

/-! ## What is in a stream -/

namespace Stream

/-- The findings of a stream, those left out that are read by requests in it. -/
def findings : Stream → List Finding
  | .done => []
  | .finding first rest => first :: rest.findings
  | .request _ rest => rest.findings

/-- The requests that are handled while the findings of a stream are read. -/
def requests : Stream → List Request
  | .done => []
  | .finding _ rest => rest.requests
  | .request first rest => first :: rest.requests

end Stream

/-- The desk after requests that are handled one after the other. -/
def Desk.after (desk : Desk) (requests : List Request) : Desk :=
  requests.foldl (fun desk request ↦ (request.handle desk).state) desk

/-- A pass takes in the findings of its stream, and the desk the requests. -/
theorem Stream.handle_eq (stream : Stream) (pass : Pass) (desk : Desk) :
    (stream.handle pass desk).pass = (pass.readAll stream.findings).value ∧
      (stream.handle pass desk).desk = desk.after stream.requests := by
  match stream with
  | .done => exact ⟨rfl, rfl⟩
  | .finding first rest => exact rest.handle_eq (pass.read first).value desk
  | .request first rest => exact rest.handle_eq pass (first.handle desk).state
termination_by structural stream

/-! ## Projections by their parts -/

section Project

variable {desk : Desk} {place : Nat} {notebook kept : Notebook} {analyzed : Option Int}
  {pass : Pass}

/-- A projection that starts no pass gives nothing and does nothing. -/
theorem handle_project_of_start_none (findings : Stream)
    (hopen : desk.notebook? place = some notebook)
    (hstart : (desk.board.start notebook analyzed).value = none) :
    (Request.project place findings analyzed).handle desk =
      ⟨.ok (.projected [] []), desk, (desk.board.start notebook analyzed).log⟩ := by
  rw [Request.handle, hopen]
  dsimp only
  split
  · next hnone => rw [hnone]
  · next hsome => simp [hsome] at hstart

/-- A projection that starts a pass reads all findings and then ends at the desk the requests leave.
-/
theorem handle_project_of_start (findings : Stream)
    (hopen : desk.notebook? place = some notebook)
    (hstart : (desk.board.start notebook analyzed).value = some (pass, kept)) :
    (Request.project place findings analyzed).handle desk =
      ⟨.ok (.projected
          (((desk.put place kept).after findings.requests).board.finish
            (pass.readAll findings.findings).value).value.1
          (findings.handle pass (desk.put place kept)).during),
        { (desk.put place kept).after findings.requests with
          board := (((desk.put place kept).after findings.requests).board.finish
            (pass.readAll findings.findings).value).value.2 },
        (desk.board.start notebook analyzed).log ++
          (findings.handle pass (desk.put place kept)).log ++
          (((desk.put place kept).after findings.requests).board.finish
            (pass.readAll findings.findings).value).log⟩ := by
  obtain ⟨hpass, hdesk⟩ := findings.handle_eq pass (desk.put place kept)
  rw [← hpass, ← hdesk, Request.handle, hopen]
  dsimp only
  split
  · next hnone => simp [hnone] at hstart
  · next hsome =>
    rw [hsome] at hstart ⊢
    obtain ⟨rfl, rfl⟩ := Prod.mk.inj (Option.some.inj hstart)
    rfl

end Project

/-! ## What every request keeps -/

/-- `P` is kept by calls, and by the beginnings and the ends of projections. -/
structure Desk.Keeps (P : Desk → Prop) : Prop where
  call {desk : Desk} (h : P desk) (call : Call) : P (desk.call call).state
  begin {desk : Desk} {place : Nat} {notebook : Notebook} (h : P desk)
    (hopen : desk.notebook? place = some notebook) : P (desk.put place notebook.readIndex.value.2)
  finish {desk last : Desk} {place : Nat} {notebook kept : Notebook} {analyzed : Option Int}
    {pass : Pass} (h : P desk) (hopen : desk.notebook? place = some notebook)
    (hstart : (desk.board.start notebook analyzed).value = some (pass, kept))
    (findings : List Finding) (hlast : P last) :
    P { last with board := (last.board.finish (pass.readAll findings).value).value.2 }

variable {P : Desk → Prop}

mutual

/-- What calls, beginnings and ends keep, every request keeps. -/
theorem Request.keeps_handle (hkeeps : Desk.Keeps P) (request : Request) {desk : Desk}
    (h : P desk) : P (request.handle desk).state := by
  match request with
  | .call call => exact hkeeps.call h call
  | .project place findings analyzed =>
    cases hopen : desk.notebook? place with
    | none => rwa [Request.handle, hopen]
    | some notebook =>
      cases hstart : (desk.board.start notebook analyzed).value with
      | none => rwa [handle_project_of_start_none findings hopen hstart]
      | some started =>
        obtain ⟨pass, kept⟩ := started
        obtain ⟨-, -, -, rfl⟩ := Board.start_eq_some hstart
        rw [handle_project_of_start findings hopen hstart]
        exact hkeeps.finish h hopen hstart findings.findings
          (findings.keeps_after hkeeps (hkeeps.begin h hopen))
termination_by structural request

theorem Stream.keeps_after (hkeeps : Desk.Keeps P) (stream : Stream) {desk : Desk} (h : P desk) :
    P (desk.after stream.requests) := by
  match stream with
  | .done => exact h
  | .finding _ rest => exact rest.keeps_after hkeeps h
  | .request first rest => exact rest.keeps_after hkeeps (first.keeps_handle hkeeps h)
termination_by structural stream

end

/-! ## Well-kept desks -/

namespace Desk

/-- No notebook takes an earlier index for its current one, and under each uri the remembered cells
are distinct. -/
structure WellKept (desk : Desk) : Prop where
  keepsIndex {own : Notebook.Desk} (h : own ∈ desk.notebooks) : own.notebook.KeepsIndex
  nodup_remembered (uri : String) : (desk.board.rememberedCells uri).Nodup

variable {desk : Desk} {place : Nat} {notebook : Notebook}

theorem WellKept.of_notebook? (h : desk.WellKept) (hopen : desk.notebook? place = some notebook) :
    notebook.KeepsIndex := by
  obtain ⟨own, hown, rfl⟩ := Option.map_eq_some_iff.1 hopen
  exact h.keepsIndex (List.mem_of_getElem? hown)

theorem WellKept.withBoard (h : desk.WellKept) {board : Board}
    (hremembered : ∀ uri, (board.rememberedCells uri).Nodup) : WellKept { desk with board } :=
  ⟨h.keepsIndex, hremembered⟩

/-- A notebook that has read its index is put back in its place. -/
theorem WellKept.put (h : desk.WellKept) (hopen : desk.notebook? place = some notebook) :
    (desk.put place notebook.readIndex.value.2).WellKept := by
  refine ⟨?_, h.nodup_remembered⟩
  intro own hown
  obtain ⟨n, hn⟩ := List.mem_iff_getElem?.1 hown
  simp only [Desk.put, List.getElem?_modify] at hn
  obtain ⟨before, hbefore, rfl⟩ := Option.map_eq_some_iff.1 hn
  split
  · exact (h.of_notebook? hopen).next (Notebook.next_readIndex notebook)
  · exact h.keepsIndex (List.mem_of_getElem? hbefore)

/-- Clearing a notebook forgets cells at most. -/
theorem WellKept.clear (h : desk.WellKept) (notebook : Notebook) :
    WellKept { desk with board := (desk.board.clear notebook).value.2 } := by
  apply h.withBoard
  intro uri
  by_cases hretired : notebook.incarnation ∈ desk.board.retired
  · rw [Board.clear_of_retired hretired]
    exact h.nodup_remembered uri
  · rw [Board.clear_of_not_retired hretired]
    dsimp only
    rw [Board.rememberedCells_erase]
    split
    · exact List.nodup_nil
    · exact h.nodup_remembered uri

theorem WellKept.clearCell (h : desk.WellKept) (uri cell : String) :
    WellKept { desk with board := (desk.board.clearCell uri cell).2 } := by
  apply h.withBoard
  intro other
  rw [Board.rememberedCells_clearCell]
  split
  · exact (h.nodup_remembered uri).filter _
  · exact h.nodup_remembered other

/-- A pass that names each cell once is remembered as such. -/
theorem WellKept.finish (h : desk.WellKept) {pass : Pass} (hpass : pass.byCell.keys.Nodup) :
    WellKept { desk with board := (desk.board.finish pass).value.2 } := by
  apply h.withBoard
  intro uri
  by_cases hretired : pass.incarnation ∈ desk.board.retired
  · rw [Board.finish_of_retired hretired]
    exact h.nodup_remembered uri
  · rw [Board.finish_of_not_retired hretired]
    dsimp only
    rw [Board.rememberedCells_set]
    split
    · exact hpass.sublist (List.filter_sublist.map _)
    · exact h.nodup_remembered uri

theorem WellKept.push (h : desk.WellKept) {own : Notebook.Desk}
    (hown : own.notebook.KeepsIndex) :
    WellKept { desk with notebooks := desk.notebooks ++ [own] } := by
  refine ⟨?_, h.nodup_remembered⟩
  intro other hother
  rcases List.mem_append.1 hother with hother | hother
  · exact h.keepsIndex hother
  · obtain rfl := List.mem_singleton.1 hother
    exact hown

/-- A notebook that is added has no index yet, or one of its version. -/
theorem WellKept.add (h : desk.WellKept) {uri : String} {delimiter : Text} {version : Int}
    {cells : Option (List Cell)} {added : Desk}
    (hadded : desk.add uri delimiter version cells = .ok added) : added.WellKept := by
  obtain ⟨delimiter, -, hadded⟩ := bind_eq_ok_iff.1 hadded
  have hblank := Notebook.keepsIndex_start uri delimiter desk.notebooks.length version
  cases cells with
  | none =>
    obtain rfl := Except.ok.inj hadded
    exact h.push hblank
  | some cells =>
    obtain ⟨notebook, hnotebook, hadded⟩ := bind_eq_ok_iff.1 hadded
    obtain rfl := Except.ok.inj hadded
    exact h.push (hblank.next (Notebook.next_of_replaceCells hnotebook))

theorem WellKept.within (h : desk.WellKept) (place : Nat) (request : Notebook.Request) :
    (desk.within place request).state.WellKept := by
  unfold Desk.within
  split
  · next own hown =>
    refine ⟨?_, h.nodup_remembered⟩
    intro other hother
    rcases List.mem_or_eq_of_mem_set hother with hother | rfl
    · exact h.keepsIndex hother
    · exact (h.keepsIndex (List.mem_of_getElem? hown)).next
        (Notebook.next_handle own request)
  · exact h

/-- Calls keep a desk well kept. -/
theorem WellKept.call (h : desk.WellKept) (call : Call) : (desk.call call).state.WellKept := by
  cases call with
  | projectFix place fix =>
    simp only [Desk.call, Desk.onNotebook]
    split
    · next notebook hopen => exact h.put hopen
    · exact h
  | clear place =>
    simp only [Desk.call, Desk.onNotebook]
    split
    · exact h.clear _
    · exact h
  | clearCell uri cell => exact h.clearCell uri cell
  | markedCells uri => exact h
  | add uri delimiter version cells =>
    simp only [Desk.call]
    split
    · next added hadded => exact h.add hadded
    · exact h
  | within place request => exact h.within place request

/-- A pass begins with every cell once. -/
theorem WellKept.nodup_keys_of_start (h : desk.WellKept)
    (hopen : desk.notebook? place = some notebook) {analyzed : Option Int} {pass : Pass}
    {kept : Notebook} (hstart : (desk.board.start notebook analyzed).value = some (pass, kept)) :
    pass.byCell.keys.Nodup := by
  obtain ⟨-, -, rfl, -⟩ := Board.start_eq_some hstart
  rw [CellDiagnostics.keys_blank, (h.of_notebook? hopen).readIndex_eq]
  exact DocumentIndex.nodup_uris_ofCells _ _ _

/-- Desks stay well kept, as a pass begins with each cell once. -/
theorem WellKept.keeps : Keeps WellKept where
  call h call := h.call call
  begin h hopen := h.put hopen
  finish h hopen hstart findings hlast :=
    hlast.finish (Pass.nodup_keys_readAll (h.nodup_keys_of_start hopen hstart) findings)

end Desk

/-! ## Reached desks -/

/-- The desks at which a request can come: between requests, and between the findings of a
projection, whose notebook has read its index. -/
inductive Desk.Reached : Desk → Prop where
  | empty : Reached .empty
  | handle {desk : Desk} (h : Reached desk) (request : Request) :
    Reached (request.handle desk).state
  | begin {desk : Desk} {place : Nat} {notebook : Notebook} (h : Reached desk)
    (hopen : desk.notebook? place = some notebook) :
    Reached (desk.put place notebook.readIndex.value.2)

/-- What is kept and holds at first holds of every reached desk. -/
theorem Desk.Reached.of_keeps (hkeeps : Desk.Keeps P) (hempty : P .empty) {desk : Desk}
    (h : desk.Reached) : P desk := by
  induction h with
  | empty => exact hempty
  | handle _ request ih => exact request.keeps_handle hkeeps ih
  | begin _ hopen ih => exact hkeeps.begin ih hopen

/-- Every reached desk is well kept. -/
theorem Desk.Reached.wellKept {desk : Desk} (h : desk.Reached) : desk.WellKept :=
  h.of_keeps WellKept.keeps ⟨nofun, fun _ ↦ List.nodup_nil⟩

theorem Desk.Reached.after {desk : Desk} (h : desk.Reached) (requests : List Request) :
    (desk.after requests).Reached := by
  induction requests generalizing desk with
  | nil => exact h
  | cons request rest ih => exact ih (h.handle request)

end Board

end CellWeave
