import CellWeave.Proofs.Document
import CellWeave.Proofs.Rendered
import CellWeave.Proofs.Sound
/-!
# Passes

Reading findings adds diagnostics under the cells that a pass began with. So its cells are, from
beginning to end, those of the index it was given, each once and in the order of the index.
-/

namespace CellWeave

namespace Pass

/-- The pass is for findings about this notebook, and has an entry for each of its cells. -/
structure Concerns (pass : Pass) (notebook : Notebook) : Prop where
  notebook_eq : pass.notebook = notebook.uri
  incarnation_eq : pass.incarnation = notebook.incarnation
  index_eq : pass.index = notebook.index
  keys_eq : pass.byCell.keys = notebook.index.uris

variable {pass : Pass} {notebook : Notebook}

theorem Concerns.nodup_keys (h : pass.Concerns notebook) : pass.byCell.keys.Nodup := by
  rw [h.keys_eq]
  exact DocumentIndex.nodup_uris_ofCells _ _ _

theorem Concerns.mem_keys_iff (h : pass.Concerns notebook) {cell : String} :
    cell ∈ pass.byCell.keys ↔ cell ∈ notebook.uris := by
  rw [h.keys_eq]
  exact DocumentIndex.mem_uris_ofCells

theorem Concerns.read (h : pass.Concerns notebook) (finding : Finding) :
    (pass.read finding).value.Concerns notebook := by
  unfold Pass.read
  dsimp only
  split
  · exact ⟨h.notebook_eq, h.incarnation_eq, h.index_eq, h.keys_eq⟩
  · next diagnostic hdiagnostic =>
    have hmem : diagnostic.cell ∈ pass.byCell.keys := by
      rw [h.index_eq] at hdiagnostic
      obtain ⟨span, -, first, -, hfirst, -⟩ := (Diagnostic.renders_of_ofFinding hdiagnostic).mapsTo
      rw [h.keys_eq]
      exact DocumentIndex.mem_uris_ofCells.2 (DocumentIndex.cell_mem_of_line? hfirst)
    refine ⟨h.notebook_eq, h.incarnation_eq, h.index_eq, ?_⟩
    rw [← h.keys_eq]
    exact Table.keys_set_of_mem hmem _

end Pass

namespace Session

/-- Requests in a stream leave the pass alone. -/
theorem Stream.concerns_handle (findings : Stream) {pass : Pass} {notebook : Notebook}
    (desk : Desk) (h : pass.Concerns notebook) :
    (findings.handle pass desk).pass.Concerns notebook := by
  match findings with
  | .done => exact h
  | .finding first rest => exact Stream.concerns_handle rest desk (h.read first)
  | .request first rest => exact Stream.concerns_handle rest (first.handle desk).desk h
termination_by structural findings

/-- A projection begins with the current index of an open notebook that was not retired. -/
theorem Sound.concerns_of_begin {desk begun : Desk} {uri : String} {analyzed : Option Int}
    {pass : Pass} (h : desk.session.Sound)
    (hbegin : desk.begin? uri analyzed = some (pass, begun)) :
    ∃ notebook, desk.session.workspace.get? uri = some notebook ∧
      (∀ version, analyzed = some version → version = notebook.version) ∧
      notebook.incarnation ∉ desk.session.board.retired ∧ pass.Concerns notebook ∧
      begun = { desk with session := desk.session.put notebook.readIndex.value.2 } := by
  obtain ⟨notebook, hopen, hversion, hretired, rfl, rfl⟩ := Desk.begin_eq_some hbegin
  have hindex := (h.keepsIndex hopen).readIndex_eq
  refine ⟨notebook, hopen, hversion, by simpa [Board.hasRetired] using hretired, ?_, rfl⟩
  constructor
  · rfl
  · rfl
  · exact hindex
  · rw [Table.keys, CellDiagnostics.blank, List.map_map, hindex]
    exact List.map_id _

/-- A projection for a notebook with cells gives diagnostics, if only none for each cell, unless the
notebook was retired in the meantime. -/
theorem Sound.project_ne_nil {desk begun : Desk} {uri : String} {analyzed : Option Int}
    {pass : Pass} {notebook : Notebook} (h : desk.session.Sound) (findings : Stream)
    (hopen : desk.session.workspace.get? uri = some notebook) (hcells : notebook.cells ≠ [])
    (hbegin : desk.begin? uri analyzed = some (pass, begun))
    (hretired : notebook.incarnation ∉ (findings.handle pass begun).desk.session.board.retired) :
    (desk.project uri findings analyzed).value.1 ≠ [] := by
  obtain ⟨found, hfound, -, -, hpass, -⟩ := h.concerns_of_begin hbegin
  obtain rfl := Option.some.inj (hopen.symm.trans hfound)
  have hread := findings.concerns_handle begun hpass
  rw [← hread.incarnation_eq] at hretired
  rw [Desk.project_of_begin findings hbegin, Desk.land_diagnostics,
    Board.finish_of_not_retired hretired]
  dsimp only
  obtain ⟨cell, hcell⟩ := List.exists_mem_of_ne_nil _ hcells
  have hkey : cell.uri ∈ (findings.handle pass begun).pass.byCell.keys :=
    hread.mem_keys_iff.2 (List.mem_map_of_mem hcell)
  intro hnil
  have hleft : cell.uri ∈ Table.keys ((findings.handle pass begun).pass.byCell.withLeftovers
      ((findings.handle pass begun).desk.session.board.rememberedCells
        (findings.handle pass begun).pass.notebook)) :=
    CellDiagnostics.mem_keys_withLeftovers.2 (.inl hkey)
  rw [hnil] at hleft
  exact List.not_mem_nil hleft

end Session

end CellWeave
