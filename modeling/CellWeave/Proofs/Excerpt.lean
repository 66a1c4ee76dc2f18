import CellWeave.Proofs.Distinct
import CellWeave.Proofs.InTurn
import CellWeave.Proofs.Quilt
import CellWeave.Proofs.Stretch
/-!
# Excerpts of the document

A span maps into a cell exactly if all its lines show the cell, and it is turned down for the first
of its ends that is on no line of the document, or else because the ends are in different cells.
From content line to content line, the document and the cell have the same text between its ends.
-/

namespace CellWeave

/-! ## The text of a span -/

namespace Text

/-- What stands between the ends of a span, if an edit could be made on it. -/
def excerpt? (text : Text) (span : Span) : Option Text :=
  match Edit.place text ⟨span, []⟩ with
  | .ok item => some (text.slice item.start item.stop)
  | .error _ => none

variable {text above : Text} {span : Span} {shown : Text}

/-- An excerpt is what lies between the offsets of its ends. -/
theorem excerpt?_eq_some_iff : text.excerpt? span = some shown ↔
    ∃ item : PlacedEdit, item.edit = ⟨span, []⟩ ∧ item.Fits text ∧
      shown = text.slice item.start item.stop := by
  unfold excerpt?
  split
  · next item hitem =>
    obtain ⟨hedit, hfits⟩ := (Edit.place_eq_ok_iff _ _ _).1 hitem
    rw [Option.some.injEq]
    constructor
    · rintro rfl
      exact ⟨item, hedit, hfits, rfl⟩
    · rintro ⟨other, hother, hotherFits, rfl⟩
      have hsame := hitem.symm.trans ((Edit.place_eq_ok_iff _ _ _).2 ⟨hother, hotherFits⟩)
      rw [Except.ok.inj hsame]
  · next error herror =>
    refine iff_of_false nofun ?_
    rintro ⟨item, hedit, hfits, -⟩
    rw [(Edit.place_eq_ok_iff _ _ _).2 ⟨hedit, hfits⟩] at herror
    exact absurd herror nofun

theorem exists_excerpt?_of_valid (h : Edit.Valid text ⟨span, []⟩) :
    ∃ shown, text.excerpt? span = some shown := by
  obtain ⟨item, hitem⟩ := (Edit.exists_place_iff _ _).2 h
  obtain ⟨hedit, hfits⟩ := (Edit.place_eq_ok_iff _ _ _).1 hitem
  exact ⟨_, excerpt?_eq_some_iff.2 ⟨item, hedit, hfits, rfl⟩⟩

theorem positionAt_append_of_endsEmpty (h : above.endsEmpty) (text : Text) (i : Nat) :
    positionAt (above ++ text) (above.length + i) =
      (positionAt text i).down (above.count feed) := by
  rcases (endsEmpty_iff above).1 h with rfl | hline
  · simp [Position.down]
  · exact positionAt_append_right hline text i

end Text

theorem PlacedEdit.Fits.shift {item : PlacedEdit} {text above : Text} (h : item.Fits text)
    (habove : above.endsEmpty) :
    (item.shift (above.count feed) above.length).Fits (above ++ text) := by
  refine ⟨Nat.add_le_add_left h.start_le_stop _, ?_, ?_, ?_⟩
  · rw [List.length_append]
    exact Nat.add_le_add_left h.stop_le _
  · rw [PlacedEdit.shift, Text.positionAt_append_of_endsEmpty habove, h.start_position]
    rfl
  · rw [PlacedEdit.shift, Text.positionAt_append_of_endsEmpty habove, h.stop_position]
    rfl

/-- A text within another, below whole lines, has its excerpts there. -/
theorem Text.excerpt?_append {text above : Text} {span : Span} {shown : Text}
    (habove : above.endsEmpty) (below : Text) (h : text.excerpt? span = some shown) :
    (above ++ (text ++ below)).excerpt?
      ⟨span.start.down (above.count feed), span.stop.down (above.count feed)⟩ = some shown := by
  obtain ⟨item, hedit, hfits, rfl⟩ := excerpt?_eq_some_iff.1 h
  refine excerpt?_eq_some_iff.2 ⟨_, ?_, (hfits.append_left below).shift habove, ?_⟩
  · rw [PlacedEdit.shift, hedit]
    rfl
  · rw [PlacedEdit.shift, slice_append_right, slice_append_left _ _ hfits.stop_le]

namespace DocumentIndex

variable {cell : Cell} {before after cells : List Cell}

/-! ## The text of a cell in the document -/

/-- A cell shows its own text, with a feed that may have been added. -/
theorem exists_ownText (text : Text) (isLast : Bool) :
    ∃ feed, ownText text isLast = text ++ feed := by
  unfold ownText closeLine
  split
  · exact ⟨[], (List.append_nil text).symm⟩
  · split
    · exact ⟨[], (List.append_nil text).symm⟩
    · exact ⟨_, rfl⟩

/-- What stands above a cell is whole lines, those of the cells before it and the delimiters. -/
theorem endsEmpty_textAbove (delimiter : Delimiter) (before : List Cell) :
    (textAbove delimiter.text before).endsEmpty := by
  induction before with
  | nil => rfl
  | cons first rest ih =>
    have hline : (closeLine first.text ++ delimiter.text).endsLine :=
      Text.endsLine_append delimiter.endsLine_text _
    rw [textAbove, List.flatMap_cons,
      Text.endsEmpty_append ((Text.endsEmpty_iff _).2 (.inr hline))]
    exact ih

theorem count_textAbove (delimiter : Delimiter) (before : List Cell) :
    (textAbove delimiter.text before).count feed = linesAbove before := by
  rw [textAbove, List.count_flatMap, linesAbove]
  congr 1
  apply List.map_congr_left
  intro cell _
  exact count_closeLine_append cell.text delimiter

/-- The text of a cell stands in the document below whole lines. -/
theorem exists_virtualText_append (delimiter : Delimiter) (before : List Cell) (cell : Cell)
    (after : List Cell) : ∃ above below,
      virtualText delimiter.text (before ++ cell :: after) = above ++ (cell.text ++ below) ∧
        above.endsEmpty ∧ above.count feed = linesAbove before := by
  obtain ⟨feed, hfeed⟩ := exists_ownText cell.text after.isEmpty
  refine ⟨textAbove delimiter.text before, feed ++ textBelow delimiter.text after, ?_,
    endsEmpty_textAbove delimiter before, count_textAbove delimiter before⟩
  rw [virtualText_append, hfeed, List.append_assoc]

theorem line?_virtualText (delimiter : Delimiter) {number : Int} (hpos : 1 ≤ number)
    (hle : number ≤ contentCount cell.text after.isEmpty) :
    (virtualText delimiter.text (before ++ cell :: after)).line? (number + linesAbove before) =
      cell.text.line? number := by
  have hplace : (number + linesAbove before - 1).toNat =
      linesAbove before + (number - 1).toNat := by
    omega
  rw [Text.line?, if_neg (by omega), hplace, Text.line?, if_neg (by omega)]
  exact (content_line_ofCells delimiter before cell after 0 (by omega)).1

/-- A place of the document on a line of a cell is a place of the cell. -/
theorem has_of_has_virtualText {delimiter : Delimiter} {p : Position} (hpos : 1 ≤ p.line)
    (hle : p.line ≤ contentCount cell.text after.isEmpty)
    (h : (virtualText delimiter.text (before ++ cell :: after)).Has (p.down (linesAbove before))) :
    cell.text.Has p := by
  obtain ⟨line, hline, hcolumn⟩ := h
  rw [Position.down_line, line?_virtualText delimiter hpos hle] at hline
  exact ⟨line, hline, hcolumn⟩

/-! ## Spans that map and spans that do not -/

/-- Why a span is in no single cell: its start, or else its stop, is on no line of the document, or
the lines of the two show different cells. -/
inductive Misses (index : DocumentIndex) (span : Span) : MappingError → Prop where
  | start (h : index.line? span.start.line = none) :
    Misses index span (.unindexed span.start.line index.version index.lineCount)
  | stop (hstart : (index.line? span.start.line).isSome) (h : index.line? span.stop.line = none) :
    Misses index span (.unindexed span.stop.line index.version index.lineCount)
  | across {first last : String} (hstart : index.owner span.start.line = some first)
    (hstop : index.owner span.stop.line = some last) (hne : first ≠ last) :
    Misses index span (.acrossCells span first last)

variable {index : DocumentIndex} {span : Span} {error : MappingError}

theorem Misses.toCellSpan_eq (h : index.Misses span error) :
    index.toCellSpan span = .error error := by
  cases h with
  | start h => simp [toCellSpan, locate, h, bind, Except.bind]
  | stop hstart h =>
    obtain ⟨first, hfirst⟩ := Option.isSome_iff_exists.1 hstart
    simp [toCellSpan, locate, hfirst, h, bind, Except.bind]
  | across hstart hstop hne =>
    obtain ⟨first, hfirst, rfl⟩ := Option.map_eq_some_iff.1 hstart
    obtain ⟨last, hlast, rfl⟩ := Option.map_eq_some_iff.1 hstop
    simp [toCellSpan, locate, hfirst, hlast, hne, bind, Except.bind, throw, throwThe,
      MonadExceptOf.throw]

theorem exists_misses_of_cellOf?_eq_none (h : index.cellOf? span = none) :
    ∃ error, index.Misses span error := by
  cases hfirst : index.line? span.start.line with
  | none => exact ⟨_, .start hfirst⟩
  | some first =>
    cases hlast : index.line? span.stop.line with
    | none => exact ⟨_, .stop (Option.isSome_of_eq_some hfirst) hlast⟩
    | some last =>
      have hstart : index.owner span.start.line = some first.cell := by
        rw [owner, hfirst, Option.map_some]
      have hstop : index.owner span.stop.line = some last.cell := by
        rw [owner, hlast, Option.map_some]
      refine ⟨_, .across hstart hstop fun heq ↦ ?_⟩
      rw [cellOf?_eq_some_iff.2 ⟨hstart, heq ▸ hstop⟩] at h
      exact Option.some_ne_none _ h

/-- Mapping fails exactly for a span that misses, with the error that says how. -/
theorem toCellSpan_eq_error_iff :
    index.toCellSpan span = .error error ↔ index.Misses span error := by
  constructor
  · intro h
    obtain ⟨other, hother⟩ := exists_misses_of_cellOf?_eq_none (cellOf?_eq_none_of_error h)
    rw [hother.toCellSpan_eq] at h
    obtain rfl := Except.error.inj h
    exact hother
  · exact Misses.toCellSpan_eq

theorem isSome_line?_of_owner {line : Int} {cell : String} (h : index.owner line = some cell) :
    (index.line? line).isSome := by
  obtain ⟨entry, hentry, -⟩ := Option.map_eq_some_iff.1 h
  exact Option.isSome_of_eq_some hentry

theorem exists_mappingMiss_iff :
    (∃ error, index.toCellSpan span = .error error ∧ error.kind = .mappingMiss) ↔
      index.line? span.start.line = none ∨ index.line? span.stop.line = none := by
  simp only [toCellSpan_eq_error_iff]
  constructor
  · rintro ⟨error, herror, hkind⟩
    cases herror with
    | start h => exact .inl h
    | stop _ h => exact .inr h
    | across => exact absurd hkind nofun
  · intro h
    cases hstart : index.line? span.start.line with
    | none => exact ⟨_, .start hstart, rfl⟩
    | some first =>
      rw [hstart, or_iff_right nofun] at h
      exact ⟨_, .stop (Option.isSome_of_eq_some hstart) h, rfl⟩

theorem exists_crossCell_iff :
    (∃ error, index.toCellSpan span = .error error ∧ error.kind = .crossCell) ↔
      ∃ first last, index.owner span.start.line = some first ∧
        index.owner span.stop.line = some last ∧ first ≠ last := by
  simp only [toCellSpan_eq_error_iff]
  constructor
  · rintro ⟨error, herror, hkind⟩
    cases herror with
    | start | stop => exact absurd hkind nofun
    | across hstart hstop hne => exact ⟨_, _, hstart, hstop, hne⟩
  · rintro ⟨first, last, hstart, hstop, hne⟩
    exact ⟨_, .across hstart hstop hne, rfl⟩

end DocumentIndex

/-- The lines from one end of a span to the other, whichever is further down. -/
def Span.Passes (span : Span) (line : Int) : Prop :=
  span.start.line ≤ line ∧ line ≤ span.stop.line ∨ span.stop.line ≤ line ∧ line ≤ span.start.line

namespace Notebook

open DocumentIndex

variable {notebook : Notebook} {span : Span} {placed : CellSpan}

/-- A cell has the lines between any two that show it. -/
theorem cellOf?_index_eq_some_iff {cell : String} :
    notebook.index.cellOf? span = some cell ↔
      ∀ line, span.Passes line → notebook.index.owner line = some cell := by
  rw [cellOf?_eq_some_iff]
  constructor
  · rintro ⟨hstart, hstop⟩ line hline
    rw [index, owner_eq_some_iff notebook.nodup_uris] at hstart hstop ⊢
    rcases hline with hline | hline
    · exact hstart.between hstop hline.1 hline.2
    · exact hstop.between hstart hline.1 hline.2
  · intro h
    refine ⟨h _ ?_, h _ ?_⟩ <;> rw [Span.Passes] <;> omega

/-- From content line to content line a span that maps has the text of the cell. -/
theorem exists_excerpt?_of_mapsTo (hmaps : notebook.index.MapsTo span placed)
    (hforward : span.start ≤ span.stop)
    (hstart : notebook.index.ShowsContent span.start.line)
    (hstop : notebook.index.ShowsContent span.stop.line)
    (hstartHas : notebook.index.text.Has span.start)
    (hstopHas : notebook.index.text.Has span.stop) :
    ∃ cell ∈ notebook.cells, cell.uri = placed.cell ∧ ∃ shown,
      notebook.index.text.excerpt? span = some shown ∧
        cell.text.excerpt? placed.span = some shown := by
  have hdistinct := notebook.nodup_uris
  obtain ⟨first, last, hfirst, hlast, hspan⟩ := hmaps
  obtain ⟨hmem, hfirstPos, hfirstLe, hfirstLine⟩ := place_of_showsContent hdistinct hstart hfirst
  obtain ⟨-, hlastPos, hlastLe, hlastLine⟩ := place_of_showsContent hdistinct hstop hlast
  dsimp only at hmem hfirstPos hfirstLe hfirstLine hlastPos hlastLe hlastLine
  obtain ⟨cell, hcell, huri⟩ := List.mem_map.1 hmem
  obtain ⟨before, after, hcells⟩ := List.append_of_mem hcell
  rw [uris, hcells] at hdistinct
  have hnot := notMem_of_nodup_append hdistinct
  rw [← huri, hcells, linesOf_append hnot] at hfirstLe hlastLe
  rw [← huri, hcells, linesBefore_append hnot] at hfirstLine hlastLine
  have hspanDown : span = ⟨placed.span.start.down (linesAbove before),
      placed.span.stop.down (linesAbove before)⟩ := by
    obtain ⟨⟨startLine, startColumn⟩, ⟨stopLine, stopColumn⟩⟩ := span
    simp only at hfirstLine hlastLine
    simp only [hspan, Span.of, Position.down, Span.mk.injEq, Position.mk.injEq, and_true]
    omega
  have htext : notebook.index.text =
      virtualText notebook.delimiter.text (before ++ cell :: after) :=
    congrArg (virtualText notebook.delimiter.text) hcells
  rw [htext, hspanDown] at hstartHas hstopHas
  rw [hspanDown, Position.down_le_down_iff] at hforward
  have hvalid : Edit.Valid cell.text ⟨placed.span, []⟩ := by
    rw [hspan] at hforward hstartHas hstopHas ⊢
    exact ⟨hforward,
      has_of_has_virtualText (Int.ofNat_le.2 hfirstPos) (Int.ofNat_le.2 hfirstLe) hstartHas,
      has_of_has_virtualText (Int.ofNat_le.2 hlastPos) (Int.ofNat_le.2 hlastLe) hstopHas⟩
  obtain ⟨shown, hshown⟩ := Text.exists_excerpt?_of_valid hvalid
  obtain ⟨above, below, hlayout, hends, hcount⟩ :=
    exists_virtualText_append notebook.delimiter before cell after
  refine ⟨cell, hcell, huri, shown, ?_, hshown⟩
  rw [htext, hlayout, hspanDown, ← hcount]
  exact Text.excerpt?_append hends below hshown

/-- A span maps exactly if all its lines show one cell. An end on no line of the document is a miss,
and ends in different cells are turned down as such. Where both ends are on content lines, the cell
has between them what the document has, and no other cell is in between. -/
theorem toCellSpan_excerpt (notebook : Notebook) (span : Span) :
    ((∃ placed, notebook.index.toCellSpan span = .ok placed) ↔
      (notebook.index.line? span.start.line).isSome ∧
        (notebook.index.line? span.stop.line).isSome ∧
          ∃ cell, ∀ line, span.Passes line → notebook.index.owner line = some cell) ∧
    ((∃ error, notebook.index.toCellSpan span = .error error ∧ error.kind = .mappingMiss) ↔
      notebook.index.line? span.start.line = none ∨ notebook.index.line? span.stop.line = none) ∧
    ((∃ error, notebook.index.toCellSpan span = .error error ∧ error.kind = .crossCell) ↔
      ∃ first last, notebook.index.owner span.start.line = some first ∧
        notebook.index.owner span.stop.line = some last ∧ first ≠ last) ∧
    ∀ placed, notebook.index.toCellSpan span = .ok placed → span.start ≤ span.stop →
      notebook.index.ShowsContent span.start.line → notebook.index.ShowsContent span.stop.line →
      notebook.index.text.Has span.start → notebook.index.text.Has span.stop →
        ∃ cell ∈ notebook.cells, cell.uri = placed.cell ∧ ∃ shown,
          notebook.index.text.excerpt? span = some shown ∧
            cell.text.excerpt? placed.span = some shown := by
  refine ⟨?_, exists_mappingMiss_iff, exists_crossCell_iff, ?_⟩
  · simp only [exists_toCellSpan_iff, cellOf?_index_eq_some_iff]
    constructor
    · rintro ⟨cell, hcell⟩
      obtain ⟨hstart, hstop⟩ := cellOf?_eq_some_iff.1 (cellOf?_index_eq_some_iff.2 hcell)
      exact ⟨isSome_line?_of_owner hstart, isSome_line?_of_owner hstop, cell, hcell⟩
    · rintro ⟨-, -, hcell⟩
      exact hcell
  · intro placed hplaced
    exact exists_excerpt?_of_mapsTo (toCellSpan_eq_ok_iff.1 hplaced)

/-- An empty cell, one without a final feed, and one with. Its document is a delimiter line, `xy`,
`z`, a delimiter line, `w` and an empty line. -/
def unevenCells : Notebook where
  uri := "u"
  delimiter := .default
  incarnation := 0
  version := 1
  table := .ofNodup [⟨"a", [], 0⟩, ⟨"b", ['x', 'y', feed, 'z'], 0⟩, ⟨"c", ['w', feed], 0⟩]
    (by decide)
  kept := none

/-- A span over two lines of one cell shows the same text there. -/
theorem toCellSpan_excerpt_unevenCells :
    unevenCells.index.toCellSpan (.of 2 1 3 1) = .ok ⟨"b", .of 1 1 2 1⟩ ∧
      unevenCells.index.text.excerpt? (.of 2 1 3 1) = some (['y', feed, 'z'] : Text) ∧
      ∃ cell ∈ unevenCells.cells, cell.uri = "b" ∧
        cell.text.excerpt? (.of 1 1 2 1) = some (['y', feed, 'z'] : Text) := by
  have hplaced : unevenCells.index.toCellSpan (.of 2 1 3 1) = .ok ⟨"b", .of 1 1 2 1⟩ := by decide
  have hshown : unevenCells.index.text.excerpt? (.of 2 1 3 1) = some (['y', feed, 'z'] : Text) := by
    decide
  have hstart : unevenCells.index.ShowsContent 2 := ⟨"b", 1, 2, by decide, rfl⟩
  have hstop : unevenCells.index.ShowsContent 3 := ⟨"b", 2, 3, by decide, rfl⟩
  obtain ⟨cell, hcell, huri, shown, hdocument, hown⟩ :=
    (toCellSpan_excerpt unevenCells (.of 2 1 3 1)).2.2.2 _ hplaced (by decide) hstart hstop
      (by decide) (by decide)
  obtain rfl := Option.some.inj (hdocument.symm.trans hshown)
  exact ⟨hplaced, hshown, cell, hcell, huri, hown⟩

end Notebook

end CellWeave
