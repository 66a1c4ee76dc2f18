import CellWeave.Session.Request
/-!
# The findings of a stream

The pass that a stream is read for takes in the findings of the stream itself, one after the other.
Requests between them change the desk and leave the pass alone.
-/

namespace CellWeave

/-- The findings are read one after the other. -/
def Pass.readAll (pass : Pass) : List Finding → Traced Pass
  | [] => ⟨pass, []⟩
  | finding :: rest =>
    let ⟨pass, log⟩ := pass.read finding
    let last := pass.readAll rest
    ⟨last.value, log ++ last.log⟩

/-- Reading a finding adds to what a pass has, and changes nothing about what it is for. -/
theorem Pass.read_keeps (pass : Pass) (finding : Finding) :
    (pass.read finding).value.notebook = pass.notebook ∧
      (pass.read finding).value.incarnation = pass.incarnation ∧
      (pass.read finding).value.index = pass.index := by
  unfold read
  dsimp only
  split <;> exact ⟨rfl, rfl, rfl⟩

theorem Pass.readAll_keeps (pass : Pass) (findings : List Finding) :
    (pass.readAll findings).value.notebook = pass.notebook ∧
      (pass.readAll findings).value.incarnation = pass.incarnation ∧
      (pass.readAll findings).value.index = pass.index := by
  induction findings generalizing pass with
  | nil => exact ⟨rfl, rfl, rfl⟩
  | cons finding rest ih =>
    obtain ⟨hnotebook, hincarnation, hindex⟩ := pass.read_keeps finding
    rw [← hnotebook, ← hincarnation, ← hindex]
    exact ih _

namespace Session

/-- The findings of a stream, those left out that are read by requests in it. -/
def Stream.findings : Stream → List Finding
  | .done => []
  | .finding first rest => first :: rest.findings
  | .request _ rest => rest.findings

/-- What becomes of the findings does not depend on the requests between them. -/
theorem Stream.pass_handle (findings : Stream) (pass : Pass) (desk : Desk) :
    (findings.handle pass desk).pass = (pass.readAll findings.findings).value := by
  match findings with
  | .done => rfl
  | .finding first rest => exact pass_handle rest (pass.read first).value desk
  | .request first rest => exact pass_handle rest pass (first.handle desk).desk
termination_by structural findings

/-- There are no requests in the stream. -/
def Stream.isFlat : Stream → Bool
  | .done => true
  | .finding _ rest => rest.isFlat
  | .request _ _ => false

/-- Findings alone leave the desk as it is. -/
theorem Stream.handle_of_isFlat {findings : Stream} (h : findings.isFlat) (pass : Pass)
    (desk : Desk) : findings.handle pass desk =
      ⟨(pass.readAll findings.findings).value, desk, [],
        (pass.readAll findings.findings).log.map .logged⟩ := by
  match findings with
  | .done => rfl
  | .finding first rest =>
    have hrest : rest.isFlat := h
    simp only [Stream.handle, handle_of_isFlat hrest, Stream.findings, Pass.readAll,
      List.map_append]
  | .request _ _ => simp [isFlat] at h
termination_by structural findings

end Session

end CellWeave
