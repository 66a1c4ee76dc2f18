import CellWeave.Proofs.Reached
/-!
# Requests in the order in which they end

A projection ends after the requests in its stream of findings. The board changes only where a
request ends, so each request finds it there as the one that ended before has left it, and a
notebook is retired from the end of the first request that clears it.
-/

namespace CellWeave

namespace Board

/-! ## The ends of requests -/

/-- The pass of a projection and the desk at which its findings are read, if it begins. -/
def Desk.begin? (desk : Desk) (place : Nat) (analyzed : Option Int) : Option (Pass × Desk) :=
  (desk.notebook? place).bind fun notebook ↦
    (desk.board.start notebook analyzed).value.map fun (pass, kept) ↦ (pass, desk.put place kept)

/-- The desk at which a request ends, which for a projection is the one after its findings. -/
def Request.last : Request → Desk → Desk
  | .call _, desk => desk
  | .project place findings analyzed, desk =>
    match desk.begin? place analyzed with
    | none => desk
    | some (pass, begun) => (findings.handle pass begun).desk

mutual

/-- The requests that are handled for a request, itself last, each with the desk it finds. They are
in the order in which they end. -/
def Request.ended : Request → Desk → List (Request × Desk)
  | .call call, desk => [(.call call, desk)]
  | .project place findings analyzed, desk =>
    (match desk.begin? place analyzed with
      | none => []
      | some (_, begun) => findings.ended begun) ++ [(.project place findings analyzed, desk)]

def Stream.ended : Stream → Desk → List (Request × Desk)
  | .done, _ => []
  | .finding _ rest, desk => rest.ended desk
  | .request request rest, desk => request.ended desk ++ rest.ended (request.handle desk).state

end

/-- The requests that are handled in a run. -/
def Desk.ended (desk : Desk) : List Request → List (Request × Desk)
  | [] => []
  | request :: rest => request.ended desk ++ (request.handle desk).state.ended rest

/-- A request is itself the last to end of those handled for it. -/
theorem Request.exists_ended (request : Request) (desk : Desk) :
    ∃ inner, request.ended desk = inner ++ [(request, desk)] := by
  cases request with
  | call call => exact ⟨[], rfl⟩
  | project place findings analyzed => exact ⟨_, rfl⟩

/-- The requests of a later part of a run end after those before it. -/
theorem Desk.ended_append (desk : Desk) (first second : List Request) :
    desk.ended (first ++ second) = desk.ended first ++ (desk.after first).ended second := by
  induction first generalizing desk with
  | nil => rfl
  | cons request rest ih =>
    rw [List.cons_append, Desk.ended, ih, Desk.ended, List.append_assoc]
    rfl

/-- The last request of a run is the last to end. -/
theorem Desk.exists_ended_concat (desk : Desk) (requests : List Request) (request : Request) :
    ∃ before, desk.ended (requests ++ [request]) =
      before ++ [(request, desk.after requests)] := by
  obtain ⟨inner, hinner⟩ := request.exists_ended (desk.after requests)
  refine ⟨desk.ended requests ++ inner, ?_⟩
  rw [Desk.ended_append, Desk.ended, Desk.ended, hinner, List.append_nil, List.append_assoc]

section Project

variable {desk begun : Desk} {place : Nat} {analyzed : Option Int} {pass : Pass}

/-- A projection begins if the board starts a pass for its notebook. -/
theorem Desk.begin?_eq_some_iff : desk.begin? place analyzed = some (pass, begun) ↔
    ∃ notebook kept, desk.notebook? place = some notebook ∧
      (desk.board.start notebook analyzed).value = some (pass, kept) ∧
        begun = desk.put place kept := by
  simp only [Desk.begin?, Option.bind_eq_some_iff, Option.map_eq_some_iff, Prod.exists,
    Prod.mk.injEq]
  constructor
  · rintro ⟨notebook, hopen, pass, kept, hstart, rfl, rfl⟩
    exact ⟨notebook, kept, hopen, hstart, rfl⟩
  · rintro ⟨notebook, kept, hopen, hstart, rfl⟩
    exact ⟨notebook, hopen, pass, kept, hstart, rfl, rfl⟩

/-- A projection that does not begin gives nothing and does nothing. -/
theorem handle_project_of_none (findings : Stream) (h : desk.begin? place analyzed = none) :
    ((Request.project place findings analyzed).handle desk).state = desk ∧
      ∀ notebook, desk.notebook? place = some notebook →
        ((Request.project place findings analyzed).handle desk).reply = .ok (.projected [] []) := by
  cases hopen : desk.notebook? place with
  | none =>
    rw [Request.handle, hopen]
    exact ⟨rfl, nofun⟩
  | some notebook =>
    rw [Desk.begin?, hopen, Option.bind_some, Option.map_eq_none_iff] at h
    rw [handle_project_of_start_none findings hopen h]
    exact ⟨rfl, fun _ _ ↦ rfl⟩

/-- The end of a projection that began is its `finish`, at the desk after its findings. -/
theorem handle_project_of_begin (findings : Stream)
    (h : desk.begin? place analyzed = some (pass, begun)) :
    ∃ during log, (Request.project place findings analyzed).handle desk =
      ⟨.ok (.projected ((begun.after findings.requests).board.finish
          (pass.readAll findings.findings).value).value.1 during),
        { begun.after findings.requests with
          board := ((begun.after findings.requests).board.finish
            (pass.readAll findings.findings).value).value.2 }, log⟩ := by
  obtain ⟨notebook, kept, hopen, hstart, rfl⟩ := Desk.begin?_eq_some_iff.1 h
  exact ⟨_, _, handle_project_of_start findings hopen hstart⟩

theorem last_project_of_none (findings : Stream) (h : desk.begin? place analyzed = none) :
    (Request.project place findings analyzed).last desk = desk := by
  rw [Request.last, h]

theorem last_project_of_begin (findings : Stream)
    (h : desk.begin? place analyzed = some (pass, begun)) :
    (Request.project place findings analyzed).last desk = begun.after findings.requests := by
  rw [Request.last, h]
  exact (findings.handle_eq pass begun).2

/-- The beginning of a projection leaves the board alone. -/
theorem board_of_begin (h : desk.begin? place analyzed = some (pass, begun)) :
    begun.board = desk.board := by
  obtain ⟨_, _, -, -, rfl⟩ := Desk.begin?_eq_some_iff.1 h
  rfl

end Project

/-! ## From end to end -/

/-- At the end of each of the requests, the board is as the one before has left it. -/
inductive Chain : Board → List (Request × Desk) → Board → Prop where
  | nil (board : Board) : Chain board [] board
  | cons {request : Request} {desk : Desk} {rest : List (Request × Desk)} {last : Board}
    (h : Chain (request.handle desk).state.board rest last) :
    Chain (request.last desk).board ((request, desk) :: rest) last

namespace Chain

variable {first middle last : Board} {before after : List (Request × Desk)} {request : Request}
  {desk : Desk}

/-- Chains are put together where one ends and the other begins. -/
theorem append (h : Chain first before middle) (hafter : Chain middle after last) :
    Chain first (before ++ after) last := by
  induction h with
  | nil => exact hafter
  | cons _ ih => exact .cons (ih hafter)

theorem concat (h : Chain first before (request.last desk).board) :
    Chain first (before ++ [(request, desk)]) (request.handle desk).state.board :=
  h.append (.cons (.nil _))

/-- A chain leads to the board that any of its requests finds at its end. -/
theorem upTo (h : Chain first (before ++ (request, desk) :: after) last) :
    Chain first before (request.last desk).board := by
  induction before generalizing first with
  | nil =>
    cases h
    exact .nil _
  | cons item rest ih =>
    obtain ⟨other, found⟩ := item
    cases h with
    | cons h => exact .cons (ih h)

end Chain

mutual

/-- The requests handled for a request form a chain to the board that it leaves. -/
theorem Request.chain_ended (request : Request) (desk : Desk) :
    Chain desk.board (request.ended desk) (request.handle desk).state.board := by
  match request with
  | .call call =>
    show Chain ((Request.call call).last desk).board [(.call call, desk)] _
    exact .cons (.nil _)
  | .project place findings analyzed =>
    rw [Request.ended]
    cases hbegin : desk.begin? place analyzed with
    | none =>
      apply Chain.concat
      rw [last_project_of_none findings hbegin]
      exact .nil _
    | some begun =>
      obtain ⟨pass, begun⟩ := begun
      apply Chain.concat
      rw [last_project_of_begin findings hbegin, ← board_of_begin hbegin]
      exact findings.chain_ended begun
termination_by structural request

theorem Stream.chain_ended (stream : Stream) (desk : Desk) :
    Chain desk.board (stream.ended desk) (desk.after stream.requests).board := by
  match stream with
  | .done => exact .nil _
  | .finding _ rest => exact rest.chain_ended desk
  | .request first rest =>
    exact (first.chain_ended desk).append (rest.chain_ended (first.handle desk).state)
termination_by structural stream

end

/-- The requests of a run form a chain to the board at its end. -/
theorem Desk.chain_ended (desk : Desk) (requests : List Request) :
    Chain desk.board (desk.ended requests) (desk.after requests).board := by
  induction requests generalizing desk with
  | nil => exact .nil _
  | cons request rest ih => exact (request.chain_ended desk).append (ih (request.handle desk).state)

mutual

theorem Request.reached_of_mem_ended {request : Request} {desk : Desk} (h : desk.Reached)
    {item : Request × Desk} (hitem : item ∈ request.ended desk) : item.2.Reached := by
  match request with
  | .call call =>
    obtain rfl := List.mem_singleton.1 hitem
    exact h
  | .project place findings analyzed =>
    rw [Request.ended, List.mem_append, List.mem_singleton] at hitem
    rcases hitem with hitem | rfl
    · cases hbegin : desk.begin? place analyzed with
      | none =>
        rw [hbegin] at hitem
        exact absurd hitem List.not_mem_nil
      | some begun =>
        obtain ⟨pass, begun⟩ := begun
        obtain ⟨notebook, kept, hopen, hstart, rfl⟩ := Desk.begin?_eq_some_iff.1 hbegin
        obtain ⟨-, -, -, rfl⟩ := Board.start_eq_some hstart
        rw [hbegin] at hitem
        exact Stream.reached_of_mem_ended (h.begin hopen) hitem
    · exact h
termination_by structural request

theorem Stream.reached_of_mem_ended {stream : Stream} {desk : Desk} (h : desk.Reached)
    {item : Request × Desk} (hitem : item ∈ stream.ended desk) : item.2.Reached := by
  match stream with
  | .done => exact absurd hitem List.not_mem_nil
  | .finding _ rest => exact @Stream.reached_of_mem_ended rest desk h item hitem
  | .request first rest =>
    rcases List.mem_append.1 hitem with hitem | hitem
    · exact Request.reached_of_mem_ended h hitem
    · exact Stream.reached_of_mem_ended (h.handle first) hitem
termination_by structural stream

end

/-- Requests of a run are handled at reached desks. -/
theorem Desk.reached_of_mem_ended {desk : Desk} (h : desk.Reached) {requests : List Request}
    {item : Request × Desk} (hitem : item ∈ desk.ended requests) : item.2.Reached := by
  induction requests generalizing desk with
  | nil => exact absurd hitem List.not_mem_nil
  | cons request rest ih =>
    rcases List.mem_append.1 hitem with hitem | hitem
    · exact Request.reached_of_mem_ended h hitem
    · exact ih (h.handle request) hitem

/-- The desk at which a request ends is a reached one. -/
theorem Desk.Reached.last {desk : Desk} (h : desk.Reached) (request : Request) :
    (request.last desk).Reached := by
  cases request with
  | call call => exact h
  | project place findings analyzed =>
    cases hbegin : desk.begin? place analyzed with
    | none => rwa [last_project_of_none findings hbegin]
    | some begun =>
      obtain ⟨pass, begun⟩ := begun
      rw [last_project_of_begin findings hbegin]
      obtain ⟨notebook, kept, hopen, hstart, rfl⟩ := Desk.begin?_eq_some_iff.1 hbegin
      obtain ⟨-, -, -, rfl⟩ := Board.start_eq_some hstart
      exact (h.begin hopen).after findings.requests

end Board

end CellWeave
