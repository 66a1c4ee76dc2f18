import CellWeave.Proofs.Gathered
import CellWeave.Proofs.Reached
/-!
# Exact projections

Whatever is done between its findings, a projection is about the notebook as it was at the start.
Each of its cells gets a diagnostic for every finding in the cell, in order and without others, and
a cell that has left the notebook is named only to be emptied. What was projected last is what the
board remembers.
-/

namespace CellWeave

open List (Forall₂)

namespace CellDiagnostics

/-- The diagnostics for a notebook that come of a list of findings, given the cells that are
remembered for it. -/
structure Exact (notebook : Notebook) (findings : List Finding) (remembered : List String)
    (byCell : CellDiagnostics) : Prop where
  /-- The cells come first, in their order, then those that are only remembered, sorted. -/
  keys_eq : ∃ leftovers, byCell.keys = notebook.uris ++ leftovers ∧
    leftovers.Pairwise (· < ·) ∧
    ∀ cell, cell ∈ leftovers ↔ cell ∈ remembered ∧ cell ∉ notebook.uris
  nodup_keys : byCell.keys.Nodup
  ofCell {cell : String} {diagnostics : List Diagnostic} (h : (cell, diagnostics) ∈ byCell)
    (hcell : cell ∈ notebook.uris) : Forall₂ (Diagnostic.Renders notebook.index)
      (Finding.inCell notebook.index findings cell) diagnostics
  leftover {cell : String} {diagnostics : List Diagnostic} (h : (cell, diagnostics) ∈ byCell)
    (hcell : cell ∉ notebook.uris) : diagnostics = []

theorem exact_withLeftovers {notebook : Notebook} {findings : List Finding}
    {byCell : CellDiagnostics} (hkeys : byCell.keys = notebook.uris)
    (hlists : ∀ cell diagnostics, (cell, diagnostics) ∈ byCell →
      Forall₂ (Diagnostic.Renders notebook.index) (Finding.inCell notebook.index findings cell)
        diagnostics) {remembered : List String} (hremembered : remembered.Nodup) :
    Exact notebook findings remembered (byCell.withLeftovers remembered) := by
  obtain ⟨leftovers, hall, hsorted, hleft⟩ := keys_withLeftovers byCell hremembered
  rw [hkeys] at hall
  simp only [hkeys] at hleft
  constructor
  · exact ⟨leftovers, hall, hsorted, hleft⟩
  · exact nodup_keys_withLeftovers (hkeys ▸ notebook.nodup_uris) hremembered
  · intro cell diagnostics h hcell
    rcases mem_withLeftovers.1 h with h | ⟨⟨-, hnot⟩, -⟩
    · exact hlists cell diagnostics h
    · exact absurd (hkeys ▸ hcell) hnot
  · intro cell diagnostics h hcell
    rcases mem_withLeftovers.1 h with h | ⟨-, hnil⟩
    · exact absurd (hkeys ▸ Table.mem_keys_of_mem h) hcell
    · exact hnil

end CellDiagnostics

/-! ## Passes -/

namespace Board

variable {board last : Board} {notebook kept : Notebook} {analyzed : Option Int} {pass : Pass}

theorem index_of_start (hkeeps : notebook.KeepsIndex)
    (hstart : (board.start notebook analyzed).value = some (pass, kept)) :
    pass.index = notebook.index := by
  obtain ⟨-, -, hpass, -⟩ := Board.start_eq_some hstart
  rw [hpass, hkeeps.readIndex_eq]

/-- The pass that is started and takes in findings has what they give for each cell. -/
theorem byCell_of_start (hkeeps : notebook.KeepsIndex)
    (hstart : (board.start notebook analyzed).value = some (pass, kept)) (findings : List Finding) :
    (pass.readAll findings).value.byCell = notebook.uris.map fun cell ↦
      (cell, Diagnostic.gathered notebook.index findings cell) := by
  obtain ⟨-, -, hpass, -⟩ := Board.start_eq_some hstart
  have hindex := index_of_start hkeeps hstart
  have hblank : pass.byCell = notebook.uris.map fun cell ↦ (cell, []) := by
    have huris : notebook.index.uris = notebook.uris :=
      DocumentIndex.uris_ofCells notebook.nodup_uris _ _
    rw [hpass, hkeeps.readIndex_eq, huris]
    rfl
  have hcells : ∀ (finding : Finding) (cell : String),
      finding.cell? pass.index = some cell → cell ∈ notebook.uris := by
    intro finding cell hcell
    rw [hindex] at hcell
    exact Finding.mem_uris_of_cell? hcell
  have hread := Pass.byCell_readAll notebook.nodup_uris hblank findings hcells
  rwa [hindex] at hread

/-- If the notebook is not retired at the end, the outcome is exact. -/
theorem exact_finish (hkeeps : notebook.KeepsIndex)
    (hstart : (board.start notebook analyzed).value = some (pass, kept)) (findings : List Finding)
    (hremembered : (last.rememberedCells notebook.uri).Nodup)
    (hretired : notebook.incarnation ∉ last.retired) :
    CellDiagnostics.Exact notebook findings (last.rememberedCells notebook.uri)
        (last.finish (pass.readAll findings).value).value.1 ∧
      ∀ cell,
        cell ∈ (last.finish (pass.readAll findings).value).value.2.markedCells notebook.uri ↔
          ∃ diagnostics ≠ [],
            (cell, diagnostics) ∈ (last.finish (pass.readAll findings).value).value.1 := by
  have hbyCell := byCell_of_start hkeeps hstart findings
  obtain ⟨hnotebook, hincarnation, -⟩ := pass.readAll_keeps findings
  obtain ⟨-, -, hpass, -⟩ := Board.start_eq_some hstart
  have hnotebook : (pass.readAll findings).value.notebook = notebook.uri := by
    rw [hnotebook, hpass]
  have hincarnation : (pass.readAll findings).value.incarnation = notebook.incarnation := by
    rw [hincarnation, hpass]
  rw [← hincarnation] at hretired
  rw [Board.finish_of_not_retired hretired, hnotebook]
  constructor
  · rw [hbyCell]
    apply CellDiagnostics.exact_withLeftovers (Table.keys_map notebook.uris _) _ hremembered
    intro cell diagnostics h
    obtain ⟨other, -, heq⟩ := List.mem_map.1 h
    obtain ⟨rfl, rfl⟩ := Prod.mk.inj heq
    exact Diagnostic.forall₂_renders_gathered notebook.index findings other
  · intro cell
    dsimp only
    rw [Board.mem_markedCells, Board.rememberedCells_set, if_pos rfl]
    exact CellDiagnostics.mem_withIssues_iff_withLeftovers _

theorem start_ne_none (hversion : ∀ version, analyzed = some version → version = notebook.version)
    (hretired : notebook.incarnation ∉ board.retired) :
    (board.start notebook analyzed).value ≠ none := by
  have hfilter : analyzed.filter (· ≠ notebook.version) = none := by
    rw [Option.filter_eq_none_iff]
    simpa using hversion
  rw [start, hfilter]
  dsimp only
  rw [if_neg (mt hasRetired_iff.1 hretired)]
  exact nofun

/-- Findings for the current version of a notebook give its exact diagnostics, whatever is done
between them, unless the notebook is cleared before the end. A finding is missing if it has no place
in any single cell, and not otherwise. Afterwards the cells with diagnostics are marked. -/
theorem project_exact {desk : Desk} (hreached : desk.Reached) {place : Nat} {notebook : Notebook}
    (hopen : desk.notebook? place = some notebook) {analyzed : Option Int}
    (hversion : ∀ version, analyzed = some version → version = notebook.version)
    (findings : Stream) (hretired : notebook.incarnation ∉
      ((Request.project place findings analyzed).handle desk).state.board.retired) :
    ∃ byCell during,
      ((Request.project place findings analyzed).handle desk).reply =
        .ok (.projected byCell during) ∧
      byCell.Exact notebook findings.findings
        (((desk.put place notebook.readIndex.value.2).after
          findings.requests).board.rememberedCells notebook.uri) ∧
      (∀ finding ∈ findings.findings,
        (∀ cell ∈ notebook.uris,
          finding ∉ Finding.inCell notebook.index findings.findings cell) ↔
            finding.Unplaced notebook.index) ∧
      ∀ cell, cell ∈ ((Request.project place findings analyzed).handle
          desk).state.board.markedCells notebook.uri ↔
        ∃ diagnostics ≠ [], (cell, diagnostics) ∈ byCell := by
  have hkeeps := hreached.wellKept.of_notebook? hopen
  cases hstart : (desk.board.start notebook analyzed).value with
  | none =>
    rw [handle_project_of_start_none findings hopen hstart] at hretired
    exact absurd hstart (start_ne_none hversion hretired)
  | some started =>
    obtain ⟨pass, kept⟩ := started
    obtain ⟨-, -, -, rfl⟩ := Board.start_eq_some hstart
    rw [handle_project_of_start findings hopen hstart] at hretired ⊢
    rw [Board.retired_finish] at hretired
    have hlast := (hreached.begin hopen).after findings.requests
    obtain ⟨hexact, hmarked⟩ := exact_finish hkeeps hstart findings.findings
      (hlast.wellKept.nodup_remembered notebook.uri) hretired
    refine ⟨_, _, rfl, hexact, ?_, hmarked⟩
    exact fun finding hmem ↦ Finding.forall_notMem_inCell_iff hmem

/-- While findings are read, a cell comes in above the one they are in and gets diagnostics. -/
def cellAbove : Stream :=
  .finding ⟨"r", "m", some (.of 1 0 1 1), none, [[⟨.of 1 0 1 1, ""⟩, ⟨.of 9 0 9 1, ""⟩]],
      [⟨"f", [⟨.of 1 0 1 1, []⟩]⟩, ⟨"g", [⟨.of 1 0 1 1, []⟩, ⟨.of 9 0 9 1, []⟩]⟩]⟩
    (.request (.call (.within 0 (.changeStructure [(0, ⟨"b", ['y'], 0⟩)] [])))
      (.request (.project 0 (.finding ⟨"r", "m", some (.of 1 0 1 1), none, [], []⟩ .done) none)
        (.finding ⟨"r", "m", some (.of 1 0 1 1), none, [], []⟩
          (.finding ⟨"r", "m", none, none, [], []⟩ .done))))

def oneCellTable : CellTable :=
  .ofNodup [⟨"a", ['x'], 0⟩] (by decide)

/-- A desk with one notebook of one cell. -/
def oneCell : Desk :=
  Desk.empty.after [.call (.add "u" Delimiter.default.text 0 (some oneCellTable.ordered))]

theorem project_exact_cellAbove : ∃ notebook byCell during,
    oneCell.notebook? 0 = some notebook ∧
    ((Request.project 0 cellAbove (some 1)).handle oneCell).reply =
      .ok (.projected byCell during) ∧
    byCell.Exact notebook cellAbove.findings ["b"] ∧
    (∀ finding ∈ cellAbove.findings,
      (∀ cell ∈ notebook.uris, finding ∉ Finding.inCell notebook.index cellAbove.findings cell) ↔
        finding.Unplaced notebook.index) ∧
    ∀ cell, cell ∈ ((Request.project 0 cellAbove (some 1)).handle
        oneCell).state.board.markedCells "u" ↔
      ∃ diagnostics ≠ [], (cell, diagnostics) ∈ byCell := by
  have hreached : oneCell.Reached := Desk.Reached.empty.after _
  have hopen : oneCell.notebook? 0 = some ⟨"u", .default, 0, 1, oneCellTable, none⟩ := by
    decide +kernel
  have hversion : ∀ version, some (1 : Int) = some version → version = 1 := by
    simp
  have hretired : 0 ∉ ((Request.project 0 cellAbove (some 1)).handle
      oneCell).state.board.retired := by
    decide +kernel
  obtain ⟨byCell, during, hexact⟩ := project_exact hreached hopen hversion cellAbove hretired
  exact ⟨_, byCell, during, hopen, hexact⟩

end Board

end CellWeave
