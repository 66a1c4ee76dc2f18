import CellWeave.Proofs.CellEdits
import CellWeave.Proofs.Sound
import CellWeave.Proofs.Stretch
/-!
# Editing one cell of a document

The edits of a cell may empty it, give it or take its final feed, or change how many lines it has.
For the other cells all of this is one number, by which the lines below the cell move: what the
document shows of a cell depends on the cell and on whether another comes after it, and the edits
change neither for the others.
-/

namespace CellWeave

namespace DocumentIndex

variable {before after : List Cell} {cell : Cell} {version : Int} {delimiter : Text} {line : Int}

theorem lineCountOf_append (hcells : ((before ++ cell :: after).map (·.uri)).Nodup)
    (version : Int) (delimiter : Text) :
    (ofCells (before ++ cell :: after) version delimiter).lineCountOf cell.uri =
      contentCount cell.text after.isEmpty := by
  rw [lineCountOf_ofCells hcells version delimiter (by simp),
    linesOf_append (notMem_of_nodup_append hcells)]

/-- The lines of a cell follow all lines above it, in their order. -/
theorem documentLine_append (hcells : ((before ++ cell :: after).map (·.uri)).Nodup) :
    (ofCells (before ++ cell :: after) version delimiter).documentLine cell.uri line =
      if 1 ≤ line ∧ line ≤ contentCount cell.text after.isEmpty then
        some (linesAbove before + line.toNat)
      else none := by
  have hbefore : linesBefore (before ++ cell :: after) cell.uri = linesAbove before :=
    linesBefore_append (notMem_of_nodup_append hcells)
  have hof : linesOf (before ++ cell :: after) cell.uri = contentCount cell.text after.isEmpty :=
    linesOf_append (notMem_of_nodup_append hcells)
  apply Option.ext
  intro shown
  rw [documentLine_ofCells hcells, hbefore, hof]
  split
  · next hline =>
    rw [Option.some.injEq]
    constructor
    · rintro ⟨-, -, -, hshown⟩
      omega
    · rintro rfl
      exact ⟨by simp, hline.1, hline.2, by omega⟩
  · next hline =>
    refine iff_of_false ?_ nofun
    rintro ⟨-, hpos, hle, -⟩
    exact hline ⟨hpos, hle⟩

/-- How the index of a document differs from that of the document before one cell was edited. -/
structure Moves (delimiter : Text) (before : List Cell) (cell edited : Cell) (after : List Cell)
    (index changed : DocumentIndex) : Prop where
  lineCountOf_eq : ∀ other ∈ before ++ after,
    changed.lineCountOf other.uri = index.lineCountOf other.uri
  documentLine_before : ∀ other ∈ before, ∀ line,
    changed.documentLine other.uri line = index.documentLine other.uri line
  documentLine_after : ∀ other ∈ after, ∀ line,
    (changed.documentLine other.uri line).map Int.ofNat =
      (index.documentLine other.uri line).map fun shown : Nat ↦
        shown + ((changed.lineCountOf cell.uri : Int) - index.lineCountOf cell.uri)
  text_eq : index.text = textAbove delimiter before ++
    (ownText cell.text after.isEmpty ++ textBelow delimiter after)
  text_changed_eq : changed.text = textAbove delimiter before ++
    (ownText edited.text after.isEmpty ++ textBelow delimiter after)

variable {edited : Cell} {version' : Int}

/-- A cell above keeps its lines: there is a cell below it, whichever text that has. -/
theorem documentLine_above (hcells : ((before ++ cell :: after).map (·.uri)).Nodup)
    (hedited : ((before ++ edited :: after).map (·.uri)).Nodup) {other : Cell}
    (hother : other ∈ before) :
    (ofCells (before ++ edited :: after) version' delimiter).lineCountOf other.uri =
        (ofCells (before ++ cell :: after) version delimiter).lineCountOf other.uri ∧
      ∀ line, (ofCells (before ++ edited :: after) version' delimiter).documentLine other.uri line =
        (ofCells (before ++ cell :: after) version delimiter).documentLine other.uri line := by
  obtain ⟨front, back, rfl⟩ := List.append_of_mem hother
  rw [List.append_assoc, List.cons_append] at hcells hedited ⊢
  have hback : (back ++ cell :: after).isEmpty = (back ++ edited :: after).isEmpty := by
    cases back <;> rfl
  rw [List.append_assoc, List.cons_append, lineCountOf_append hcells, lineCountOf_append hedited,
    hback]
  refine ⟨rfl, fun line ↦ ?_⟩
  rw [documentLine_append hcells, documentLine_append hedited, hback]

/-- A cell below keeps its lines, and what is above them changes by what the edited cell has more
or less than before. -/
theorem documentLine_below (hcells : ((before ++ cell :: after).map (·.uri)).Nodup)
    (hedited : ((before ++ edited :: after).map (·.uri)).Nodup) {other : Cell}
    (hother : other ∈ after) :
    (ofCells (before ++ edited :: after) version' delimiter).lineCountOf other.uri =
        (ofCells (before ++ cell :: after) version delimiter).lineCountOf other.uri ∧
      ∀ line, ((ofCells (before ++ edited :: after) version' delimiter).documentLine other.uri
          line).map Int.ofNat =
        ((ofCells (before ++ cell :: after) version delimiter).documentLine other.uri line).map
          fun shown : Nat ↦ shown + ((contentCount edited.text false : Int) -
            contentCount cell.text false) := by
  obtain ⟨front, back, rfl⟩ := List.append_of_mem hother
  have habove (first : Cell) : linesAbove (before ++ first :: front) =
      linesAbove before + (contentCount first.text false + 1 + linesAbove front) := by
    rw [← linesAbove_cons]
    simp only [linesAbove, List.map_append, List.sum_append]
  have hsplit (first : Cell) : before ++ first :: (front ++ other :: back) =
      (before ++ first :: front) ++ other :: back := by
    rw [List.append_assoc, List.cons_append]
  rw [hsplit] at hcells hedited
  rw [hsplit, hsplit, lineCountOf_append hcells, lineCountOf_append hedited]
  refine ⟨rfl, fun line ↦ ?_⟩
  rw [documentLine_append hcells, documentLine_append hedited, habove, habove]
  split
  · simp only [Option.map_some, Option.some.injEq, Int.ofNat_eq_natCast]
    omega
  · rfl

/-- An edited cell leaves everything above it where it is and moves everything below it by the
difference of its own lines. -/
theorem moves_ofCells (hcells : ((before ++ cell :: after).map (·.uri)).Nodup)
    (huri : edited.uri = cell.uri) (version version' : Int) (delimiter : Text) :
    Moves delimiter before cell edited after (ofCells (before ++ cell :: after) version delimiter)
      (ofCells (before ++ edited :: after) version' delimiter) := by
  have hedited : ((before ++ edited :: after).map (·.uri)).Nodup := by
    rw [List.map_append, List.map_cons, huri, ← List.map_cons, ← List.map_append]
    exact hcells
  constructor
  · intro other hother
    rcases List.mem_append.1 hother with hother | hother
    · exact (documentLine_above hcells hedited hother).1
    · exact (documentLine_below hcells hedited hother).1
  · intro other hother
    exact (documentLine_above hcells hedited hother).2
  · intro other hother line
    have hafter : after.isEmpty = false := by
      rw [List.isEmpty_eq_false_iff]
      exact List.ne_nil_of_mem hother
    have hcount := lineCountOf_append hcells version delimiter
    have hcount' := lineCountOf_append hedited version' delimiter
    rw [hafter] at hcount hcount'
    rw [huri] at hcount'
    rw [hcount, hcount']
    exact (documentLine_below hcells hedited hother).2 line
  · exact virtualText_append delimiter before cell after
  · exact virtualText_append delimiter before edited after

end DocumentIndex

namespace Notebook

open DocumentIndex (Moves moves_ofCells)

variable {notebook : Notebook} {uri : String} {edits : List Edit} {version : Option Int}
  {change : Traced (Cell × Notebook)} {before after : List Cell} {cell : Cell}

/-- With distinct uris only one cell is replaced. -/
theorem map_insteadOf_eq (hcells : ((before ++ cell :: after).map (·.uri)).Nodup) {edited : Cell}
    (huri : edited.uri = cell.uri) :
    (before ++ cell :: after).map edited.insteadOf = before ++ edited :: after := by
  have hothers {cells : List Cell} (h : cell.uri ∉ cells.map (·.uri)) :
      cells.map edited.insteadOf = cells := by
    have hsame : ∀ other ∈ cells, edited.insteadOf other = id other := by
      intro other hother
      apply if_neg
      intro heq
      rw [← huri, ← heq] at h
      exact h (List.mem_map_of_mem hother)
    rw [List.map_congr_left hsame, List.map_id]
  have hbefore : cell.uri ∉ before.map (·.uri) := DocumentIndex.notMem_of_nodup_append hcells
  have hafter : cell.uri ∉ after.map (·.uri) := by
    rw [List.map_append, List.map_cons] at hcells
    exact (List.nodup_cons.1 hcells.of_append_right).1
  rw [List.map_append, List.map_cons, Cell.insteadOf, if_pos huri.symm, hothers hbefore,
    hothers hafter]

/-- Whatever the edits do to a cell, the cells above it stay as they are and where they are, and the
cells below it stay as they are and all move by the same number of lines. -/
theorem changeContent_moves (hkeeps : notebook.KeepsIndex)
    (h : notebook.changeContent uri edits version = .ok change) :
    ∃ before cell after, notebook.cells = before ++ cell :: after ∧ cell.uri = uri ∧
      change.value.1.uri = uri ∧ Edit.applyAll cell.text edits = .ok change.value.1.text ∧
      (∃ table : CellTable, table.ordered = before ++ change.value.1 :: after ∧
        change.value.2 = notebook.withTable table) ∧
      Moves notebook.delimiter.text before cell change.value.1 after
        notebook.readIndex.value.1 change.value.2.readIndex.value.1 := by
  rw [hkeeps.readIndex_eq, (hkeeps.next (next_of_changeContent h)).readIndex_eq]
  obtain ⟨cell, text, edited, hfound, htext, hedited, rfl⟩ := changeContent_eq_ok_iff.1 h
  obtain ⟨hcell, rfl⟩ := cell?_eq_some_iff.1 hfound
  obtain ⟨before, after, hcells⟩ := List.append_of_mem hcell
  obtain ⟨huri, rfl⟩ : edited.uri = cell.uri ∧ edited.text = text := by
    rw [hedited]
    exact ⟨rfl, rfl⟩
  have hdistinct := notebook.nodup_uris
  rw [uris, hcells] at hdistinct
  have hchanged : (notebook.table.update edited).ordered = before ++ edited :: after :=
    (congrArg (List.map edited.insteadOf) hcells).trans (map_insteadOf_eq hdistinct huri)
  refine ⟨before, cell, after, hcells, rfl, huri, htext, ⟨_, hchanged, rfl⟩, ?_⟩
  have hafter : (notebook.withTable (notebook.table.update edited)).cells =
      before ++ edited :: after := hchanged
  rw [index, index, hcells, hafter]
  exact moves_ofCells hdistinct huri _ _ _

/-- Takes away both lines of the middle cell. -/
def threeCellsEmptying : List Edit :=
  [⟨.of 1 0 3 0, []⟩]

/-- The line below the middle cell comes up by two. -/
theorem changeContent_moves_emptied :
    threeCells.KeepsIndex ∧
      ∃ change, threeCells.changeContent "b" threeCellsEmptying none = .ok change ∧
        (∃ before cell after, threeCells.cells = before ++ cell :: after ∧ cell.uri = "b" ∧
          change.value.1.uri = "b" ∧
          Edit.applyAll cell.text threeCellsEmptying = .ok change.value.1.text ∧
          (∃ table : CellTable, table.ordered = before ++ change.value.1 :: after ∧
            change.value.2 = threeCells.withTable table) ∧
          Moves threeCells.delimiter.text before cell change.value.1 after
            threeCells.readIndex.value.1 change.value.2.readIndex.value.1) ∧
        threeCells.index.documentLine "c" 1 = some 6 ∧
        change.value.2.index.documentLine "c" 1 = some 4 := by
  have hkeeps : threeCells.KeepsIndex := nofun
  have htext : Edit.applyAll ['y', feed, 'z', feed] threeCellsEmptying = .ok [] :=
    Edit.applyAll_of_placed [⟨0, 4, ⟨.of 1 0 3 0, []⟩⟩] (.refl _) (by decide) (by decide)
  have hcell : threeCells.cell? "b" = some ⟨"b", ['y', feed, 'z', feed], 0⟩ := rfl
  obtain ⟨change, hchange, hline⟩ : ∃ change,
      threeCells.changeContent "b" threeCellsEmptying none = .ok change ∧
        change.value.2.index.documentLine "c" 1 = some 4 :=
    ⟨_, changeContent_eq_ok_iff.2 ⟨_, _, _, hcell, htext, rfl, rfl⟩, by decide⟩
  exact ⟨hkeeps, change, hchange, changeContent_moves hkeeps hchange, by decide, hline⟩

end Notebook

end CellWeave
