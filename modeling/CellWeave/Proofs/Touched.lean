import CellWeave.Proofs.Collapse
/-!
# Deletions on touched lines

The line that a deletion merges should stay if another edit touches it. The pass looks at the edit
that begins where the deletion ends, and at nothing before it. So an edit before it that ends on the
same line does not keep the line, if it leaves it empty as well.
-/

namespace CellWeave

namespace Edit

/-- One edit ends on the line that a deletion begins on, or begins on the line it ends on. -/
def touchedBy (deletion other : Edit) : Bool :=
  other ≠ deletion && (other.span.stop.line == deletion.span.start.line ||
    other.span.start.line == deletion.span.stop.line)

section Accepted

variable {text : Text} {edits : List Edit} {items : List PlacedEdit}

theorem replacement_infix_replaced (h : placeAll text edits = .ok items) {edit : Edit}
    (hedit : edit ∈ edits) : edit.replacement <:+: replaced text edits := by
  obtain ⟨-, hfits, -⟩ := (placeAll_eq_ok_iff _ _ _).1 h
  obtain ⟨item, hitem, rfl⟩ := (mem_iff_of_placeAll h).1 hedit
  have hle := (hfits item hitem).start_le
  have hpiece : item.edit.replacement <+: piece text edits item.start := by
    rw [piece, writtenAt_start h hitem]
    exact List.prefix_append _ _
  have hsucc : piece text edits item.start <:+ replacedTo text edits (item.start + 1) := by
    rw [replacedTo_succ]
    exact List.suffix_append _ _
  have hwhole : replacedTo text edits (item.start + 1) <+: replaced text edits :=
    replacedTo_prefix text edits (Nat.succ_le_succ hle)
  exact hpiece.isInfix.trans (hsucc.isInfix.trans hwhole.isInfix)

theorem isDeletion_of_collapses {edit : Edit} (h : collapses text edits edit) :
    edit.isMultiline ∧ edit.replacement = [] := by
  simp only [collapses, Bool.and_eq_true, List.isEmpty_iff] at h
  exact h.1.1

/-- A collapsing edit takes a line away, and a text that is not empty shows it. -/
theorem unlines_leaveOut_eq_iff :
    Text.unlines (Text.leaveOut (collapsedLines text edits) (replaced text edits).lines) =
        replaced text edits ↔
      replaced text edits = [] ∨ ∀ edit ∈ edits, ¬ collapses text edits edit := by
  by_cases hnil : replaced text edits = []
  · rw [hnil]
    exact iff_of_true (Text.unlines_leaveOut_empty _) (.inl rfl)
  · rw [or_iff_right hnil]
    constructor
    · intro heq edit hedit hcollapses
      have hplace : madeOn text edits edit ∈ collapsedLines text edits :=
        List.mem_map_of_mem (List.mem_filter.2 ⟨hedit, hcollapses⟩)
      have hline : (replaced text edits).lines[madeOn text edits edit]? = some [] :=
        beq_iff_eq.1 ((Bool.and_eq_true _ _).mp hcollapses).2
      exact Text.unlines_leaveOut_ne hnil hplace (List.getElem?_eq_some_iff.1 hline).1 heq
    · intro hnone
      have hplaces : collapsedLines text edits = [] := by
        rw [collapsedLines, List.filter_eq_nil_iff.2 hnone, List.map_nil]
      rw [hplaces, Text.leaveOut_nil, Text.unlines_lines]

/-- No edit begins on the line that a collapsing one ends on. -/
theorem start_line_ne_of_collapses (h : placeAll text edits = .ok items) {edit other : Edit}
    (hedit : edit ∈ edits) (hcollapses : collapses text edits edit) (hother : other ∈ edits)
    (hne : other ≠ edit) : other.span.start.line ≠ edit.span.stop.line := by
  obtain ⟨-, hfits, -⟩ := (placeAll_eq_ok_iff _ _ _).1 h
  obtain ⟨item, hitem, rfl⟩ := (mem_iff_of_placeAll h).1 hedit
  obtain ⟨other, hmem, rfl⟩ := (mem_iff_of_placeAll h).1 hother
  have hfit := hfits item hitem
  have hotherFit := hfits other hmem
  obtain ⟨done, rest, rfl⟩ := List.append_of_mem hitem
  obtain ⟨hmultiline, -, hnext, hchar, -⟩ := of_collapses h hcollapses
  rw [← hotherFit.start_position, ← hfit.stop_position]
  rcases List.mem_append.1 hmem with hbefore | hafter
  · -- the deletion begins further down than the other edit, and ends further down still
    have hle := text.positionAt_line_le (Nat.le_of_lt ((splits h).1 other hbefore).1)
    have hlt : item.edit.span.start.line < item.edit.span.stop.line := of_decide_eq_true hmultiline
    rw [← hfit.start_position, ← hfit.stop_position] at hlt
    omega
  · have hrest : other ∈ rest :=
      (List.mem_cons.1 hafter).resolve_left fun heq ↦ hne (congrArg PlacedEdit.edit heq)
    have hlt := hnext other hrest
    have hstart := hotherFit.start_le
    -- the line ends where the deletion does
    have hfeed : text[item.stop]? = some feed := by
      refine hchar.resolve_left fun hnone ↦ ?_
      have := List.getElem?_eq_none_iff.1 hnone
      omega
    have hle := text.positionAt_line_le (Nat.succ_le_of_lt hlt)
    have hdown : (text.positionAt (item.stop + 1)).line = (text.positionAt item.stop).line + 1 := by
      rw [Text.positionAt_add, Text.walk_line, List.take_one, List.head?_drop, hfeed]
      rfl
    rw [Nat.succ_eq_add_one, hdown] at hle
    omega

end Accepted

/-- Where another edit touches every deletion over several lines, the edits give what they write as
long as none collapses. One that does is touched from above only. -/
theorem applyAll_eq_replaced_iff {text : Text} {edits : List Edit} {result : Text}
    (htouched : ∀ edit ∈ edits, edit.isMultiline → edit.replacement = [] →
      ∃ other ∈ edits, edit.touchedBy other)
    (h : applyAll text edits = .ok result) :
    (result = replaced text edits ↔
        replaced text edits = [] ∨ ∀ edit ∈ edits, ¬ collapses text edits edit) ∧
      (result = replaced text edits → ∀ edit ∈ edits, edit.replacement <:+: result) ∧
      ∀ edit ∈ edits, collapses text edits edit →
        (∃ other ∈ edits, other ≠ edit ∧ other.span.stop.line = edit.span.start.line) ∧
          ∀ other ∈ edits, other ≠ edit → other.span.start.line ≠ edit.span.stop.line := by
  obtain ⟨items, hitems, hsplice⟩ := (applyAll_eq_ok_iff _ _ _).1 h
  refine ⟨?_, ?_, fun edit hedit hcollapses ↦ ?_⟩
  · rw [← unlines_leaveOut_eq_iff, ← (splice_eq_unlines_leaveOut hitems).1, hsplice]
  · rintro rfl edit hedit
    exact replacement_infix_replaced hitems hedit
  · have hbelow (other : Edit) (hother : other ∈ edits) (hne : other ≠ edit) :
        other.span.start.line ≠ edit.span.stop.line :=
      start_line_ne_of_collapses hitems hedit hcollapses hother hne
    obtain ⟨hmultiline, hempty⟩ := isDeletion_of_collapses hcollapses
    obtain ⟨other, hother, htouches⟩ := htouched edit hedit hmultiline hempty
    simp only [touchedBy, Bool.and_eq_true, decide_eq_true_eq, Bool.or_eq_true, beq_iff_eq]
      at htouches
    obtain ⟨hne, habove | hunder⟩ := htouches
    · exact ⟨⟨other, hother, hne, habove⟩, hbelow⟩
    · exact absurd hunder (hbelow other hother hne)

/-- A replacement that ends with a feed, and a deletion over two lines right behind it. -/
def feedThenCut : List Edit :=
  [⟨.of 1 0 1 1, ['f', 'o', 'o', feed]⟩, ⟨.of 1 1 2 2, []⟩]

theorem applyAll_feedThenCut :
    applyAll ['a', 'b', feed, 'c', 'd'] feedThenCut = .ok ['f', 'o', 'o'] :=
  applyAll_of_placed [⟨0, 1, ⟨.of 1 0 1 1, ['f', 'o', 'o', feed]⟩⟩, ⟨1, 5, ⟨.of 1 1 2 2, []⟩⟩]
    (by decide) (by decide) (by decide)

/-- The deletion takes away the feed that the edit before it puts in. -/
theorem feedThenCut_feedLost :
    (∀ edit ∈ feedThenCut, edit.isMultiline → edit.replacement = [] →
      ∃ other ∈ feedThenCut, edit.touchedBy other) ∧
    applyAll ['a', 'b', feed, 'c', 'd'] feedThenCut = .ok ['f', 'o', 'o'] ∧
    replaced ['a', 'b', feed, 'c', 'd'] feedThenCut = (['f', 'o', 'o', feed] : Text) := by
  refine ⟨by decide, applyAll_feedThenCut, by decide +kernel⟩

theorem collapses_feedThenCut :
    let text : Text := ['a', 'b', feed, 'c', 'd']
    (∀ edit ∈ feedThenCut, edit.isMultiline → edit.replacement = [] →
      ∃ other ∈ feedThenCut, edit.touchedBy other) ∧
    applyAll text feedThenCut = .ok ['f', 'o', 'o'] ∧
    ((['f', 'o', 'o'] : Text) = replaced text feedThenCut ↔
      replaced text feedThenCut = [] ∨ ∀ edit ∈ feedThenCut, ¬ collapses text feedThenCut edit) ∧
    collapses text feedThenCut ⟨.of 1 1 2 2, []⟩ := by
  have htouched : ∀ edit ∈ feedThenCut, edit.isMultiline → edit.replacement = [] →
      ∃ other ∈ feedThenCut, edit.touchedBy other := by
    decide
  exact ⟨htouched, applyAll_feedThenCut,
    (applyAll_eq_replaced_iff htouched applyAll_feedThenCut).1, by decide +kernel⟩

end Edit

end CellWeave
