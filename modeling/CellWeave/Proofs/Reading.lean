import CellWeave.Proofs.Document
import CellWeave.SyncError
import Mathlib.Algebra.Ring.Nat
/-!
# Reading the document line by line

A reader of the virtual document comes through the cells in their order, and finds the content lines
of each and a delimiter line before the next. Line by line, the line table names what is read there.
Nothing of this depends on the uris, so a cell may be listed twice.
-/

namespace CellWeave

theorem Delimiter.text_of_parse {text : Text} {delimiter : Delimiter}
    (h : parse text = .ok delimiter) : delimiter.text = text := by
  cases hparsed : ofText? text with
  | none => simp [parse, hparsed] at h
  | some parsed =>
    obtain rfl : parsed = delimiter := by simpa [parse, hparsed] using h
    exact text_of_ofText? hparsed

namespace DocumentIndex

/-! ## The lines of one cell -/

/-- The lines of a cell's text that the document shows. -/
def contentLines (text : Text) (isLast : Bool) : List Text :=
  text.lines.take (contentCount text isLast)

theorem contentLines_last (text : Text) : contentLines text true = text.lines :=
  List.take_length

/-- Before a delimiter an empty cell has no line, and any other has those up to its final feed. -/
theorem contentLines_inner (text : Text) :
    contentLines text false = if text = [] then [] else text.dropFinalFeed.lines := by
  rw [contentLines, contentCount]
  by_cases hempty : text = []
  · subst hempty
    rfl
  · rw [if_neg hempty]
    by_cases hline : text.endsLine
    · have hlines := Text.lines_of_endsLine hline
      rw [if_pos (by simp [Text.endsEmpty, hline]), hlines, List.length_append,
        List.length_singleton, Nat.add_sub_cancel, List.take_left]
    · rw [if_neg (by simp [Text.endsEmpty, hline, hempty]), List.take_length, Text.dropFinalFeed,
        if_neg hline]

theorem length_contentLines (text : Text) (isLast : Bool) :
    (contentLines text isLast).length = contentCount text isLast := by
  rw [contentLines, List.length_take, Nat.min_eq_left]
  unfold contentCount
  split
  · exact Nat.sub_le _ _
  · exact Nat.le_refl _

/-- The content lines make up the text again, but for a final feed before a delimiter. -/
theorem unlines_contentLines (text : Text) (isLast : Bool) :
    Text.unlines (contentLines text isLast) = if isLast then text else text.dropFinalFeed := by
  cases isLast with
  | true => rw [contentLines_last, Text.unlines_lines, if_pos rfl]
  | false =>
    rw [contentLines_inner, if_neg Bool.false_ne_true]
    split
    · next hempty =>
      rw [hempty]
      rfl
    · exact Text.unlines_lines _

theorem closeLine_of_ne_nil {text : Text} (h : text ≠ []) :
    closeLine text = text.dropFinalFeed ++ [feed] := by
  rw [closeLine]
  by_cases hline : text.endsLine
  · rw [if_pos (by simp [Text.endsEmpty, hline]), Text.dropFinalFeed_of_endsLine hline]
  · rw [if_neg (by simp [Text.endsEmpty, hline, h]), Text.dropFinalFeed, if_neg hline]

/-- A cell, a delimiter line, and what is below it. -/
theorem lines_closeLine_append (text : Text) (delimiter : Delimiter) (rest : Text) :
    Text.lines (closeLine text ++ delimiter.text ++ rest) =
      contentLines text false ++ delimiter.line :: rest.lines := by
  have hbelow : Text.lines (delimiter.text ++ rest) = delimiter.line :: rest.lines := by
    rw [Delimiter.text, List.append_assoc, List.singleton_append, Text.lines_append_feed,
      Text.lines_of_notMem delimiter.line_unbroken, List.singleton_append]
  rw [List.append_assoc, contentLines_inner]
  split
  · next hempty =>
    rw [hempty]
    exact hbelow
  · next hempty =>
    rw [closeLine_of_ne_nil hempty, List.append_assoc, List.singleton_append,
      Text.lines_append_feed, hbelow]

/-! ## Going down the document -/

/-- How many virtual lines stand above a cell that comes after these. -/
def linesAbove (before : List Cell) : Nat :=
  (before.map fun cell ↦ contentCount cell.text false + 1).sum

variable {before after : List Cell} {cell : Cell} {version : Int}

theorem linesAbove_cons (cell : Cell) (rest : List Cell) :
    linesAbove (cell :: rest) = contentCount cell.text false + 1 + linesAbove rest :=
  List.sum_cons

theorem linesAbove_concat (front : List Cell) (last : Cell) :
    linesAbove (front ++ [last]) = linesAbove front + contentCount last.text false + 1 := by
  rw [linesAbove, List.map_append, List.sum_append]
  simp [linesAbove, Nat.add_assoc]

/-- Above the first of the later cells, the document has the lines of those before them. -/
theorem exists_lines_virtualText_append (delimiter : Delimiter) (before : List Cell)
    (h : after ≠ []) : ∃ above, above.length = linesAbove before ∧
      (virtualText delimiter.text (before ++ after)).lines =
        above ++ (virtualText delimiter.text after).lines := by
  induction before with
  | nil => exact ⟨[], rfl, rfl⟩
  | cons cell rest ih =>
    obtain ⟨above, hlength, hlines⟩ := ih
    have hrest : rest ++ after ≠ [] := List.append_ne_nil_of_right_ne_nil rest h
    refine ⟨contentLines cell.text false ++ delimiter.line :: above, ?_, ?_⟩
    · rw [List.length_append, List.length_cons, length_contentLines, hlength, linesAbove_cons]
      omega
    · rw [List.cons_append, virtualText_cons _ _ hrest, lines_closeLine_append, hlines,
        List.append_assoc, List.cons_append]

theorem exists_entriesOf_append (before : List Cell) (h : after ≠ []) :
    ∃ above, above.length = linesAbove before ∧
      entriesOf (before ++ after) = above ++ entriesOf after := by
  induction before with
  | nil => exact ⟨[], rfl, rfl⟩
  | cons cell rest ih =>
    obtain ⟨above, hlength, hentries⟩ := ih
    obtain ⟨next, others, hrest⟩ := List.exists_cons_of_ne_nil
      (List.append_ne_nil_of_right_ne_nil rest h)
    refine ⟨contentEntries cell false ++ ⟨next.uri, 1⟩ :: above, ?_, ?_⟩
    · rw [List.length_append, List.length_cons, length_contentEntries, hlength, linesAbove_cons]
      omega
    · rw [List.cons_append, hrest, entriesOf, ← hrest, hentries, List.append_assoc,
        List.cons_append]

theorem drop_lines_virtualText (delimiter : Delimiter) (before : List Cell) (h : after ≠ []) :
    (virtualText delimiter.text (before ++ after)).lines.drop (linesAbove before) =
      (virtualText delimiter.text after).lines := by
  obtain ⟨above, hlength, hlines⟩ := exists_lines_virtualText_append delimiter before h
  rw [hlines, List.drop_left' hlength]

theorem drop_entriesOf (before : List Cell) (h : after ≠ []) :
    (entriesOf (before ++ after)).drop (linesAbove before) = entriesOf after := by
  obtain ⟨above, hlength, hentries⟩ := exists_entriesOf_append before h
  rw [hentries, List.drop_left' hlength]

theorem take_lines_virtualText (delimiter : Delimiter) (cell : Cell) (after : List Cell) :
    (virtualText delimiter.text (cell :: after)).lines.take
      (contentCount cell.text after.isEmpty) = contentLines cell.text after.isEmpty := by
  cases after with
  | nil => rfl
  | cons next rest =>
    rw [virtualText_cons _ _ (List.cons_ne_nil next rest), lines_closeLine_append,
      List.isEmpty_cons, List.take_left' (length_contentLines _ _)]

theorem length_entriesOf (delimiter : Delimiter) {cells : List Cell} (h : cells ≠ []) :
    (entriesOf cells).length = (virtualText delimiter.text cells).lines.length := by
  induction cells with
  | nil => exact absurd rfl h
  | cons cell rest ih =>
    cases rest with
    | nil => exact length_contentEntries cell true
    | cons next rest =>
      have hrest : next :: rest ≠ [] := List.cons_ne_nil next rest
      rw [virtualText_cons _ _ hrest, lines_closeLine_append, entriesOf, List.length_append,
        List.length_append, List.length_cons, List.length_cons, ih hrest, length_contentEntries,
        length_contentLines]

/-! ## Looking lines up -/

theorem line?_add_one (index : DocumentIndex) (n : Nat) :
    index.line? ((n + 1 : Nat) : Int) = index.entries[n]? := by
  rw [line?, if_neg (by omega)]
  congr 1
  omega

theorem isSome_line?_iff (index : DocumentIndex) (line : Int) :
    (index.line? line).isSome ↔ 1 ≤ line ∧ line ≤ index.lineCount := by
  rw [line?, lineCount]
  split
  · next hline => simp [Int.not_le.2 hline]
  · next hline =>
    rw [isSome_getElem?]
    omega

/-- The document shows a cell below those before it and above those after it. Its content lines
stand one after the other, and just above them a delimiter line if it is not the first cell. -/
structure ShowsCell (index : DocumentIndex) (delimiter : Delimiter) (before : List Cell)
    (cell : Cell) (after : List Cell) : Prop where
  delimiter_line (h : before ≠ []) :
    index.text.lines[linesAbove before - 1]? = some delimiter.line ∧
      index.line? (linesAbove before) = some ⟨cell.uri, 1⟩
  content_line (n : Nat) (h : n < contentCount cell.text after.isEmpty) :
    ∃ line, cell.text.lines[n]? = some line ∧
      index.text.lines[linesAbove before + n]? = some line ∧
      index.line? (linesAbove before + n + 1 : Nat) = some ⟨cell.uri, n + 1⟩
  unlines_content :
    Text.unlines ((index.text.lines.drop (linesAbove before)).take
      (contentCount cell.text after.isEmpty)) =
        if after.isEmpty then cell.text else cell.text.dropFinalFeed
  last_line (h : after = []) :
    linesAbove before + contentCount cell.text true = index.lineCount

theorem delimiter_line_ofCells (delimiter : Delimiter) (front : List Cell) (last cell : Cell)
    (after : List Cell) (version : Int) :
    (ofCells (front ++ last :: cell :: after) version delimiter.text).text.lines[
        linesAbove front + contentCount last.text false]? = some delimiter.line ∧
      (ofCells (front ++ last :: cell :: after) version delimiter.text).entries[
        linesAbove front + contentCount last.text false]? = some ⟨cell.uri, 1⟩ := by
  have hrest : last :: cell :: after ≠ [] := List.cons_ne_nil _ _
  constructor
  · rw [← List.getElem?_drop, ofCells, drop_lines_virtualText delimiter front hrest,
      virtualText_cons _ _ (List.cons_ne_nil _ _), lines_closeLine_append,
      ← length_contentLines, List.getElem?_append_right (Nat.le_refl _), Nat.sub_self]
    rfl
  · rw [← List.getElem?_drop, ofCells, drop_entriesOf front hrest, entriesOf,
      ← length_contentEntries, List.getElem?_append_right (Nat.le_refl _), Nat.sub_self]
    rfl

theorem content_line_ofCells (delimiter : Delimiter) (before : List Cell) (cell : Cell)
    (after : List Cell) (version : Int) {n : Nat} (h : n < contentCount cell.text after.isEmpty) :
    (ofCells (before ++ cell :: after) version delimiter.text).text.lines[
        linesAbove before + n]? = cell.text.lines[n]? ∧
      (ofCells (before ++ cell :: after) version delimiter.text).entries[
        linesAbove before + n]? = some ⟨cell.uri, n + 1⟩ := by
  have hrest : cell :: after ≠ [] := List.cons_ne_nil _ _
  constructor
  · have htake := take_lines_virtualText delimiter cell after
    rw [← List.getElem?_drop, ofCells, drop_lines_virtualText delimiter before hrest,
      ← List.getElem?_take_of_lt h, htake, contentLines, List.getElem?_take_of_lt h]
  · rw [← List.getElem?_drop, ofCells, drop_entriesOf before hrest]
    cases after with
    | nil => exact getElem?_contentEntries h
    | cons next rest =>
      rw [entriesOf, List.getElem?_append_left (by rwa [length_contentEntries])]
      exact getElem?_contentEntries h

/-- The text and the line table of a document have the same lines. Both go through the cells in
their order, and show of each its content lines, below a delimiter line that stands for its first
line unless it is the first cell. -/
theorem showsCell_ofCells {text : Text} {delimiter : Delimiter}
    (hdelimiter : Delimiter.parse text = .ok delimiter) {cells : List Cell} (hcells : cells ≠ [])
    (version : Int) :
    (ofCells cells version text).lineCount = (ofCells cells version text).text.lines.length ∧
      (∀ line, ((ofCells cells version text).line? line).isSome ↔
        1 ≤ line ∧ line ≤ (ofCells cells version text).lineCount) ∧
      ∀ before cell after, cells = before ++ cell :: after →
        (ofCells cells version text).ShowsCell delimiter before cell after := by
  obtain rfl := Delimiter.text_of_parse hdelimiter
  refine ⟨length_entriesOf delimiter hcells, isSome_line?_iff _, ?_⟩
  rintro before cell after rfl
  have hrest : cell :: after ≠ [] := List.cons_ne_nil _ _
  constructor
  · intro hbefore
    obtain ⟨front, last, rfl⟩ := List.eq_nil_or_concat before |>.resolve_left hbefore
    have hline := delimiter_line_ofCells delimiter front last cell after version
    rw [List.concat_eq_append, List.append_assoc, List.singleton_append, linesAbove_concat,
      Nat.add_sub_cancel, line?_add_one]
    exact hline
  · intro n hn
    have hline := content_line_ofCells delimiter before cell after version hn
    have hlength : n < cell.text.lines.length := by
      rw [← length_contentLines, contentLines, List.length_take] at hn
      exact Nat.lt_of_lt_of_le hn (Nat.min_le_right _ _)
    refine ⟨cell.text.lines[n], List.getElem?_eq_getElem hlength, ?_, ?_⟩
    · rw [hline.1, List.getElem?_eq_getElem hlength]
    · rw [line?_add_one, hline.2]
  · rw [ofCells, drop_lines_virtualText delimiter before hrest, take_lines_virtualText,
      unlines_contentLines]
  · rintro rfl
    obtain ⟨above, hlength, hentries⟩ := exists_entriesOf_append before hrest
    rw [lineCount, ofCells, hentries, List.length_append, hlength, entriesOf,
      length_contentEntries]

/-- An empty cell, one without a final feed, one under a uri that was there before, and a last one
that ends with a feed. -/
def mixedCells : List Cell :=
  [⟨"a", [], 0⟩, ⟨"b", ['x'], 0⟩, ⟨"a", ['y', feed, 'z', feed], 0⟩, ⟨"c", ['w', feed], 0⟩]

theorem showsCell_ofCells_mixedCells :
    Delimiter.parse ['#', feed] = .ok ⟨['#'], by decide⟩ ∧ mixedCells ≠ [] ∧
      (ofCells mixedCells 1 ['#', feed]).text.lines.length = 8 ∧
      (ofCells mixedCells 1 ['#', feed]).lineCount = 8 ∧
      (ofCells mixedCells 1 ['#', feed]).ShowsCell ⟨['#'], by decide⟩
        [⟨"a", [], 0⟩, ⟨"b", ['x'], 0⟩] ⟨"a", ['y', feed, 'z', feed], 0⟩
        [⟨"c", ['w', feed], 0⟩] := by
  have hdelimiter : Delimiter.parse ['#', feed] = .ok ⟨['#'], by decide⟩ := rfl
  have hcells : mixedCells ≠ [] := List.cons_ne_nil _ _
  obtain ⟨hcount, -, hshows⟩ := showsCell_ofCells hdelimiter hcells 1
  have hlength : (ofCells mixedCells 1 ['#', feed]).text.lines.length = 8 := by decide
  exact ⟨hdelimiter, hcells, hlength, hcount.trans hlength, hshows _ _ _ rfl⟩

end DocumentIndex

end CellWeave
