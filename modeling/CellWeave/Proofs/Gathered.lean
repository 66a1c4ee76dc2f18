import CellWeave.Proofs.Document
import CellWeave.Proofs.Findings
import CellWeave.Proofs.Rendered
/-!
# What a pass gathers

Each finding that is read adds one diagnostic at the end of the list of its cell, or is dropped. So
after a whole stream the list of a cell renders the findings of the cell, in the order in which they
came.
-/

namespace CellWeave

open List (Forall₂)

namespace Finding

/-- The findings whose spans map into a cell. -/
def inCell (index : DocumentIndex) (findings : List Finding) (cell : String) : List Finding :=
  findings.filter (·.cell? index = some cell)

theorem mem_uris_of_cell? {cells : List Cell} {version : Int} {delimiter : Text}
    {finding : Finding} {cell : String}
    (h : finding.cell? (.ofCells cells version delimiter) = some cell) :
    cell ∈ cells.map (·.uri) := by
  obtain ⟨span, -, hcell⟩ := Option.bind_eq_some_iff.1 h
  obtain ⟨hstart, -⟩ := DocumentIndex.cellOf?_eq_some_iff.1 hcell
  obtain ⟨entry, hentry, rfl⟩ := Option.map_eq_some_iff.1 hstart
  exact DocumentIndex.cell_mem_of_line? hentry

/-- A finding is in no cell of the document only if it has no place in any single cell. -/
theorem forall_notMem_inCell_iff {notebook : Notebook} {findings : List Finding}
    {finding : Finding} (h : finding ∈ findings) :
    (∀ cell ∈ notebook.uris, finding ∉ inCell notebook.index findings cell) ↔
      finding.Unplaced notebook.index := by
  rw [← cell?_eq_none_iff, Option.eq_none_iff_forall_ne_some]
  constructor
  · intro hnot cell hcell
    exact hnot cell (mem_uris_of_cell? hcell) (List.mem_filter.2 ⟨h, decide_eq_true hcell⟩)
  · intro hnone cell _ hmem
    exact hnone cell (of_decide_eq_true (List.mem_filter.1 hmem).2)

end Finding

namespace Diagnostic

/-- The diagnostics of a cell, one for each finding in it. -/
def gathered (index : DocumentIndex) (findings : List Finding) (cell : String) :
    List Diagnostic :=
  findings.filterMap fun finding ↦ (ofFinding index finding).value.filter (·.cell = cell)

theorem gathered_cons (index : DocumentIndex) (finding : Finding) (rest : List Finding)
    (cell : String) : gathered index (finding :: rest) cell =
      ((ofFinding index finding).value.filter (·.cell = cell)).toList ++
        gathered index rest cell := by
  rw [gathered, List.filterMap_cons]
  cases (ofFinding index finding).value.filter (·.cell = cell) <;> rfl

theorem forall₂_renders_gathered (index : DocumentIndex) (findings : List Finding)
    (cell : String) :
    Forall₂ (Renders index) (Finding.inCell index findings cell)
      (gathered index findings cell) := by
  apply forall₂_filter_filterMap
  · intro finding
    rw [← map_cell_ofFinding]
    cases (ofFinding index finding).value with
    | none => rfl
    | some shown => by_cases h : shown.cell = cell <;> simp [h]
  · intro finding shown h
    exact renders_of_ofFinding (Option.filter_eq_some_iff.1 h).1

end Diagnostic

namespace Pass

variable {pass : Pass} {cells : List String} {before : String → List Diagnostic}

theorem byCell_read (hcells : cells.Nodup)
    (hbefore : pass.byCell = cells.map fun cell ↦ (cell, before cell)) (finding : Finding)
    (hfinding : ∀ cell, finding.cell? pass.index = some cell → cell ∈ cells) :
    (pass.read finding).value.byCell = cells.map fun cell ↦ (cell, before cell ++
      ((Diagnostic.ofFinding pass.index finding).value.filter (·.cell = cell)).toList) := by
  rw [← Diagnostic.map_cell_ofFinding] at hfinding
  unfold read
  dsimp only
  split
  · next hnone => simp [hbefore, hnone]
  · next shown hshown =>
    have hmem : shown.cell ∈ cells := hfinding shown.cell (by rw [hshown]; rfl)
    dsimp only
    rw [hbefore, hshown, Table.get?_map_of_mem before hmem, Option.getD_some,
      Table.set_map_of_mem hcells before hmem]
    apply List.map_congr_left
    intro cell _
    by_cases hcell : cell = shown.cell
    · simp [hcell, Option.filter]
    · simp [hcell, Ne.symm hcell]

/-- Reading findings adds to the list of each cell what they give for it. -/
theorem byCell_readAll (hcells : cells.Nodup)
    (hbefore : pass.byCell = cells.map fun cell ↦ (cell, before cell)) (findings : List Finding)
    (hfindings : ∀ (finding : Finding) (cell : String),
      finding.cell? pass.index = some cell → cell ∈ cells) :
    (pass.readAll findings).value.byCell = cells.map fun cell ↦
      (cell, before cell ++ Diagnostic.gathered pass.index findings cell) := by
  induction findings generalizing pass before with
  | nil => simpa [readAll, Diagnostic.gathered] using hbefore
  | cons finding rest ih =>
    have hindex : (pass.read finding).value.index = pass.index := (pass.read_keeps finding).2.2
    have hread := byCell_read hcells hbefore finding (hfindings finding)
    have hrest := ih hread (by rwa [hindex])
    rw [hindex] at hrest
    simp only [readAll, hrest, Diagnostic.gathered_cons, List.append_assoc]

end Pass

end CellWeave
