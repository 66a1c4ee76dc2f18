import CellWeave.Proofs.Accepted
import CellWeave.Proofs.Split
import CellWeave.Proofs.Stretch
/-!
# Order across delimiter lines

A delimiter line shows the first line of the cell below it, as the line under the delimiter does,
and columns stay as they are. So a span that begins on the one and ends on the other comes out
reversed if its columns are, and two edits that begin on the one and on the other can come out on
the same place. Nothing else that is in order in the document is out of order in a cell.
-/

namespace CellWeave

namespace DocumentIndex

/-- The upper position is on a delimiter line, and the lower one on the line right below it. -/
def OverSeam (cells : List Cell) (upper lower : Position) : Prop :=
  ∃ line ∈ delimiterLines cells, upper.line = line ∧ lower.line = line + 1

instance (cells : List Cell) (upper lower : Position) : Decidable (OverSeam cells upper lower) :=
  inferInstanceAs (Decidable (∃ line ∈ delimiterLines cells, _ ∧ _))

/-- The place of a cell that a position in its stretch is shown as. -/
def shownPosition (cells : List Cell) (uri : String) (p : Position) : Position :=
  ⟨shownLine cells uri p.line, p.column⟩

variable {cells : List Cell} {uri : String} {p q : Position} {line : Int}

theorem linesBefore_mem_delimiterLines (huri : uri ∈ cells.map (·.uri))
    (h : linesBefore cells uri ≠ 0) : linesBefore cells uri ∈ delimiterLines cells := by
  fun_induction delimiterLines cells with
  | case1 => exact absurd huri List.not_mem_nil
  | case2 cell =>
    obtain rfl := List.mem_singleton.1 huri
    exact absurd linesBefore_self h
  | case3 cell next rest ih =>
    by_cases hcell : cell.uri = uri
    · rw [← hcell, linesBefore_self] at h
      exact absurd rfl h
    · have huri := (List.mem_cons.1 huri).resolve_left (Ne.symm hcell)
      rw [linesBefore_cons hcell, List.mem_cons, List.mem_map]
      by_cases hnext : linesBefore (next :: rest) uri = 0
      · exact .inl (by rw [hnext])
      · exact .inr ⟨_, ih huri hnext, rfl⟩

/-- In the stretch of a cell the delimiter line is the first line, if there is one. -/
theorem Stretches.mem_delimiterLines_iff {line : Nat} (h : Stretches cells uri line) :
    line ∈ delimiterLines cells ↔ line = linesBefore cells uri := by
  have hpos := h.pos
  have hbefore := h.before_le
  have hle := h.le_add
  constructor
  · intro hmem
    by_contra hne
    obtain ⟨n, rfl⟩ : ∃ n, line = linesBefore cells uri + n + 1 :=
      ⟨line - linesBefore cells uri - 1, by omega⟩
    exact notMem_delimiterLines h.mem_uris (by omega) hmem
  · rintro rfl
    exact linesBefore_mem_delimiterLines h.mem_uris (by omega)

theorem overSeam_iff (hp : Stretches cells uri p.line) :
    OverSeam cells p q ↔ p.line = linesBefore cells uri ∧ q.line = p.line + 1 := by
  constructor
  · rintro ⟨line, hline, hpline, hqline⟩
    rw [hpline] at hp
    rw [hp.mem_delimiterLines_iff] at hline
    omega
  · rintro ⟨hpline, hqline⟩
    have hpos := hp.pos
    refine ⟨linesBefore cells uri, linesBefore_mem_delimiterLines hp.mem_uris (by omega), hpline,
      ?_⟩
    omega

/-- Positions in the stretch of a cell stay in order, but for those over its seam. -/
theorem shownPosition_le_iff (hp : Stretches cells uri p.line) (hq : Stretches cells uri q.line)
    (h : p ≤ q) : shownPosition cells uri p ≤ shownPosition cells uri q ↔
      ¬ (OverSeam cells p q ∧ q.column < p.column) := by
  have hpBefore := hp.before_le
  have hqBefore := hq.before_le
  rw [overSeam_iff hp, Position.le_iff, shownPosition, shownPosition]
  rw [Position.le_iff] at h
  simp only [shownLine]
  omega

theorem shownPosition_eq_iff (hp : Stretches cells uri p.line) (hq : Stretches cells uri q.line)
    (h : p ≤ q) : shownPosition cells uri p = shownPosition cells uri q ↔
      p = q ∨ OverSeam cells p q ∧ p.column = q.column := by
  have hpBefore := hp.before_le
  have hqBefore := hq.before_le
  obtain ⟨line, column⟩ := p
  obtain ⟨line', column'⟩ := q
  simp only [overSeam_iff hp, shownPosition, Position.mk.injEq]
  simp only [Position.le_iff, shownLine] at *
  omega

/-- The place of a span in the cell that its lines show. -/
def shownSpan (cells : List Cell) (uri : String) (span : Span) : Span :=
  ⟨shownPosition cells uri span.start, shownPosition cells uri span.stop⟩

/-- One edit begins on a delimiter line and the other on the line right below it, and on one line
they would begin at the same column, or each would begin before the other ends. -/
def MeetOverSeam (cells : List Cell) (upper lower : Edit) : Prop :=
  OverSeam cells upper.span.start lower.span.start ∧
    (upper.span.start.column = lower.span.start.column ∨
      upper.span.stop.line = upper.span.start.line ∧
        lower.span.start.column < upper.span.stop.column ∧
        (lower.span.stop.line = lower.span.start.line →
          upper.span.start.column < lower.span.stop.column))

instance (cells : List Cell) (upper lower : Edit) : Decidable (MeetOverSeam cells upper lower) :=
  inferInstanceAs (Decidable (_ ∧ (_ ∨ _ ∧ _ ∧ (_ → _))))

/-- Edits in order stay so in the cell, unless they meet over its seam. -/
theorem compatible_shownSpan_iff {first second : Edit} {text text' : Text}
    (hfirst : Stretches cells uri first.span.start.line)
    (hfirstStop : Stretches cells uri first.span.stop.line)
    (hsecond : Stretches cells uri second.span.start.line)
    (hforward : first.span.start ≤ first.span.stop)
    (hforward' : second.span.start ≤ second.span.stop)
    (hne : first.span.start ≠ second.span.start)
    (hle : first.span.stop ≤ second.span.start) :
    Edit.Compatible ⟨shownSpan cells uri first.span, text⟩
        ⟨shownSpan cells uri second.span, text'⟩ ↔
      ¬ MeetOverSeam cells first second := by
  have hstart := Position.le_trans hforward hle
  have hbefore := hfirst.before_le
  have hbeforeStop := hfirstStop.before_le
  have hbefore' := hsecond.before_le
  simp only [Edit.Compatible, MeetOverSeam, shownSpan, ne_eq,
    shownPosition_eq_iff hfirst hsecond hstart, shownPosition_le_iff hfirstStop hsecond hle, hne,
    overSeam_iff hfirst, overSeam_iff hfirstStop, false_or]
  simp only [Position.le_iff, shownPosition, shownLine] at *
  omega

theorem not_meetOverSeam_of_le {upper lower : Edit} (h : lower.span.start ≤ upper.span.start) :
    ¬ MeetOverSeam cells upper lower := by
  rintro ⟨⟨line, -, hupper, hlower⟩, -⟩
  rw [Position.le_iff] at h
  omega

/-- A span that maps is on lines of one stretch, and comes out as they show it. -/
theorem mapsTo_ofCells_iff (hcells : (cells.map (·.uri)).Nodup) {version : Int} {delimiter : Text}
    {span : Span} {placed : CellSpan} : (ofCells cells version delimiter).MapsTo span placed ↔
      Stretches cells placed.cell span.start.line ∧ Stretches cells placed.cell span.stop.line ∧
        placed.span = shownSpan cells placed.cell span := by
  simp only [MapsTo, line?_eq_some_iff hcells]
  constructor
  · rintro ⟨first, last, ⟨hstart, rfl⟩, ⟨hstop, rfl⟩, hspan⟩
    exact ⟨hstart, hstop, hspan⟩
  · rintro ⟨hstart, hstop, hspan⟩
    exact ⟨_, _, ⟨hstart, rfl⟩, ⟨hstop, rfl⟩, hspan⟩

variable {index : DocumentIndex}

/-- The edits of a list that map into one cell are in one group. -/
theorem exists_group_of_mapsEdit {edits : List Edit} {groups : List EditGroup}
    (hgroups : index.toGroups edits = .ok groups) {first second first' second' : Edit}
    {cell : String} (hfirst : first ∈ edits) (hsecond : second ∈ edits)
    (hfirst' : index.MapsEdit first (cell, first'))
    (hsecond' : index.MapsEdit second (cell, second')) :
    ∃ group ∈ groups, group.cell = cell ∧ first' ∈ group.edits ∧ second' ∈ group.edits := by
  obtain ⟨mapped, hmapped, rfl⟩ := toGroups_eq_ok_iff.1 hgroups
  have hmem := mem_of_mapsEdit hmapped hfirst hfirst'
  refine ⟨⟨cell, editsOf mapped cell⟩, ?_, rfl, mem_editsOf.2 hmem, ?_⟩
  · exact mem_groupEdits.2 ⟨List.mem_map_of_mem hmem, rfl⟩
  · exact mem_editsOf.2 (mem_of_mapsEdit hmapped hsecond hsecond')

end DocumentIndex

namespace Notebook

open DocumentIndex

variable {notebook : Notebook}

/-- A span that maps stays in order, unless it goes over a seam with its columns reversed. -/
theorem start_le_stop_iff_of_mapsTo {span : Span} {placed : CellSpan}
    (hmaps : notebook.index.MapsTo span placed)
    (hforward : span.start ≤ span.stop) : placed.span.start ≤ placed.span.stop ↔
      ¬ (OverSeam notebook.cells span.start span.stop ∧ span.stop.column < span.start.column) := by
  obtain ⟨hstart, hstop, hspan⟩ := (mapsTo_ofCells_iff notebook.nodup_uris).1 hmaps
  rw [hspan]
  exact shownPosition_le_iff hstart hstop hforward

/-- Edits that can be made together on the document can be made together in the cell, unless they
meet over its seam. -/
theorem compatible_iff_of_mapsEdit {first second : Edit}
    {cell : String} {first' second' : Edit} (hforward : first.span.start ≤ first.span.stop)
    (hforward' : second.span.start ≤ second.span.stop) (hcompatible : first.Compatible second)
    (hfirst : notebook.index.MapsEdit first (cell, first'))
    (hsecond : notebook.index.MapsEdit second (cell, second')) :
    first'.Compatible second' ↔
      ¬ MeetOverSeam notebook.cells first second ∧ ¬ MeetOverSeam notebook.cells second first := by
  obtain ⟨hne, hle⟩ := hcompatible
  obtain ⟨firstSpan, firstReplacement⟩ := first'
  obtain ⟨secondSpan, secondReplacement⟩ := second'
  obtain ⟨hstart, hstop, hspan⟩ := (mapsTo_ofCells_iff notebook.nodup_uris).1 hfirst.1
  obtain ⟨hstart', hstop', hspan'⟩ := (mapsTo_ofCells_iff notebook.nodup_uris).1 hsecond.1
  dsimp only at hspan hspan'
  rw [hspan, hspan']
  rcases hle with hle | hle
  · have hmeet : ¬ MeetOverSeam notebook.cells second first :=
      not_meetOverSeam_of_le (Position.le_trans hforward hle)
    rw [compatible_shownSpan_iff hstart hstop hstart' hforward hforward' hne hle,
      and_iff_left hmeet]
  · have hmeet : ¬ MeetOverSeam notebook.cells first second :=
      not_meetOverSeam_of_le (Position.le_trans hforward' hle)
    rw [and_iff_right hmeet,
      ← compatible_shownSpan_iff hstart' hstop' hstart hforward' hforward hne.symm hle]
    exact ⟨Edit.Compatible.symm, Edit.Compatible.symm⟩

/-- Spans that map stay in order and edits that share a cell stay apart, but for what is over a
seam. -/
theorem order_kept_iff (notebook : Notebook) :
    (∀ span placed, notebook.index.toCellSpan span = .ok placed → span.start ≤ span.stop →
      (placed.span.start ≤ placed.span.stop ↔
        ¬ (OverSeam notebook.cells span.start span.stop ∧
          span.stop.column < span.start.column))) ∧
    ∀ edits groups, notebook.index.toGroups edits = .ok groups →
      ∀ first ∈ edits, ∀ second ∈ edits, first.span.start ≤ first.span.stop →
        second.span.start ≤ second.span.stop → first.Compatible second →
        ∀ cell first' second', notebook.index.toCellEdit first = .ok (cell, first') →
          notebook.index.toCellEdit second = .ok (cell, second') →
          (∃ group ∈ groups, group.cell = cell ∧ first' ∈ group.edits ∧ second' ∈ group.edits) ∧
          (first'.Compatible second' ↔ ¬ MeetOverSeam notebook.cells first second ∧
            ¬ MeetOverSeam notebook.cells second first) := by
  constructor
  · intro span placed hplaced
    exact start_le_stop_iff_of_mapsTo (toCellSpan_eq_ok_iff.1 hplaced)
  · intro edits groups hgroups first hfirst second hsecond hforward hforward' hcompatible
      cell first' second' hfirst' hsecond'
    rw [toCellEdit_eq_ok_iff] at hfirst' hsecond'
    exact ⟨exists_group_of_mapsEdit hgroups hfirst hsecond hfirst' hsecond',
      compatible_iff_of_mapsEdit hforward hforward' hcompatible hfirst' hsecond'⟩

/-- A span that begins at the end of a delimiter line, and ends at the beginning of the next line,
comes out reversed. Two edits that each take away the first character of one of the two lines come
out on one place. -/
theorem order_lost_threeCells :
    (threeCells.index.toCellSpan (.of 2 1 3 0) = .ok ⟨"b", .of 1 1 1 0⟩ ∧
      (⟨2, 1⟩ : Position) ≤ ⟨3, 0⟩ ∧ threeCells.index.text.Has ⟨2, 1⟩ ∧
      threeCells.index.text.Has ⟨3, 0⟩ ∧ ¬ (⟨1, 1⟩ : Position) ≤ ⟨1, 0⟩) ∧
    threeCells.index.toGroups [⟨.of 2 0 2 1, []⟩, ⟨.of 3 0 3 1, []⟩] =
        .ok [⟨"b", [⟨.of 1 0 1 1, []⟩, ⟨.of 1 0 1 1, []⟩]⟩] ∧
      Edit.Valid threeCells.index.text ⟨.of 2 0 2 1, []⟩ ∧
      Edit.Valid threeCells.index.text ⟨.of 3 0 3 1, []⟩ ∧
      Edit.Compatible ⟨.of 2 0 2 1, []⟩ ⟨.of 3 0 3 1, []⟩ ∧
      ¬ Edit.Compatible ⟨.of 1 0 1 1, []⟩ ⟨.of 1 0 1 1, []⟩ := by
  refine ⟨⟨?_, ?_, ?_, ?_, ?_⟩, ?_, ⟨?_, ?_, ?_⟩, ⟨?_, ?_, ?_⟩, ?_, ?_⟩ <;> decide

/-- A span past the line below the boundary, and edits in different columns, stay in order. -/
theorem order_kept_iff_threeCells :
    threeCells.index.toCellSpan (.of 2 1 4 0) = .ok ⟨"b", .of 1 1 2 0⟩ ∧
      (⟨1, 1⟩ : Position) ≤ ⟨2, 0⟩ ∧
      threeCells.index.toGroups [⟨.of 2 0 2 1, []⟩, ⟨.of 3 1 3 1, ['q']⟩] =
        .ok [⟨"b", [⟨.of 1 0 1 1, []⟩, ⟨.of 1 1 1 1, ['q']⟩]⟩] ∧
      Edit.Compatible ⟨.of 1 0 1 1, []⟩ ⟨.of 1 1 1 1, ['q']⟩ := by
  have hspan : threeCells.index.toCellSpan (.of 2 1 4 0) = .ok ⟨"b", .of 1 1 2 0⟩ := by decide
  have hgroups : threeCells.index.toGroups [⟨.of 2 0 2 1, []⟩, ⟨.of 3 1 3 1, ['q']⟩] =
      .ok [⟨"b", [⟨.of 1 0 1 1, []⟩, ⟨.of 1 1 1 1, ['q']⟩]⟩] := by decide
  obtain ⟨hordered, hcompatible⟩ := order_kept_iff threeCells
  have hapart := hcompatible _ _ hgroups ⟨.of 2 0 2 1, []⟩ (by decide) ⟨.of 3 1 3 1, ['q']⟩
    (by decide) (by decide) (by decide) (by decide) "b" ⟨.of 1 0 1 1, []⟩ ⟨.of 1 1 1 1, ['q']⟩
    (by decide) (by decide)
  refine ⟨hspan, (hordered _ _ hspan (by decide)).2 (by decide), hgroups, hapart.2.2 ?_⟩
  decide

end Notebook

end CellWeave
