import CellWeave.Proofs.Document
import CellWeave.Proofs.Mapping
import CellWeave.Proofs.Seam
/-!
# Edits of the document as edits of its cells

A batch on the virtual document, no edit of which begins or ends on a delimiter line, is one batch
on each cell. The document made of the results is the result of the batch on the document, if a
cell that changes is whole lines or the last one, and the last cell does not lose all its text.
-/

namespace CellWeave

open DocumentIndex

namespace Edit

@[simp] theorem down_zero (edit : Edit) : edit.down 0 = edit := by
  simp [down, Position.down]

theorem down_down (edit : Edit) (first second : Nat) :
    (edit.down first).down second = edit.down (second + first) := by
  have hline (line : Int) : line + first + second = line + (second + first : Nat) := by omega
  simp [down, Position.down, hline]

end Edit

namespace DocumentIndex

/-- A line of the document at which some cell shows a line of its own. -/
def ShowsContent (index : DocumentIndex) (line : Int) : Prop :=
  ∃ cell cellLine shown, index.documentLine cell cellLine = some shown ∧ (shown : Int) = line

/-- An edit under a cell of the list, on lines that the cell has in the document. -/
structure Lands (cells : List Cell) (item : String × Edit) : Prop where
  mem_uris : item.1 ∈ cells.map (·.uri)
  one_le_start : 1 ≤ item.2.span.start.line
  one_le_stop : 1 ≤ item.2.span.stop.line
  stop_le : item.2.span.stop.line ≤ linesOf cells item.1

/-- The edit of the document that an edit of a cell stands for. -/
def raise (cells : List Cell) (item : String × Edit) : Edit :=
  item.2.down (linesBefore cells item.1)

variable {cells : List Cell} {version : Int} {delimiter : Text}

theorem place_of_showsContent (hcells : (cells.map (·.uri)).Nodup) {line : Int}
    (h : (ofCells cells version delimiter).ShowsContent line) {entry : LocalLine}
    (hentry : (ofCells cells version delimiter).line? line = some entry) :
    entry.cell ∈ cells.map (·.uri) ∧ 1 ≤ entry.line ∧ entry.line ≤ linesOf cells entry.cell ∧
      line = linesBefore cells entry.cell + entry.line := by
  obtain ⟨cell, cellLine, shown, hshown, rfl⟩ := h
  rw [line?_ofCells hcells hshown] at hentry
  obtain rfl := Option.some.inj hentry
  obtain ⟨hcell, hpos, hle, hplace⟩ := (documentLine_ofCells hcells _ _ _ _ _).1 hshown
  refine ⟨hcell, ?_, ?_, ?_⟩ <;> dsimp only <;> omega

/-- An edit from content line to content line that maps to a cell stands below the lines before
that cell. -/
theorem MapsEdit.lands (hcells : (cells.map (·.uri)).Nodup) {edit : Edit}
    (hstart : (ofCells cells version delimiter).ShowsContent edit.span.start.line)
    (hstop : (ofCells cells version delimiter).ShowsContent edit.span.stop.line)
    {item : String × Edit} (h : (ofCells cells version delimiter).MapsEdit edit item) :
    Lands cells item ∧ edit = raise cells item := by
  obtain ⟨⟨first, last, hfirst, hlast, hspan⟩, hreplacement⟩ := h
  obtain ⟨hmem, hstartPos, -, hstartLine⟩ := place_of_showsContent hcells hstart hfirst
  obtain ⟨-, hstopPos, hstopLe, hstopLine⟩ := place_of_showsContent hcells hstop hlast
  obtain ⟨cell, moved, replacement⟩ := item
  obtain ⟨⟨⟨startLine, startColumn⟩, ⟨stopLine, stopColumn⟩⟩, kept⟩ := edit
  obtain rfl : moved = _ := hspan
  obtain rfl : replacement = kept := hreplacement
  constructor
  · constructor
    · exact hmem
    · exact Int.ofNat_le.2 hstartPos
    · exact Int.ofNat_le.2 hstopPos
    · exact Int.ofNat_le.2 hstopLe
  · dsimp only at hstartLine hstopLine
    simp [raise, Edit.down, Position.down, Span.of]
    omega

/-! ## What is written -/

/-- The text of a cell with the edits made that land in it, or as it was if they cannot be. -/
def writtenText (edits : List (String × Edit)) (cell : Cell) : Text :=
  match Edit.applyAll cell.text (editsOf edits cell.uri) with
  | .ok text => text
  | .error _ => cell.text

def written (edits : List (String × Edit)) (cell : Cell) : Cell :=
  { cell with text := writtenText edits cell }

theorem writtenText_of_applyAll {edits : List (String × Edit)} {cell : Cell} {text : Text}
    (h : Edit.applyAll cell.text (editsOf edits cell.uri) = .ok text) :
    writtenText edits cell = text := by
  rw [writtenText, h]

theorem writtenText_congr {edits others : List (String × Edit)} {cell : Cell}
    (h : editsOf edits cell.uri = editsOf others cell.uri) :
    writtenText edits cell = writtenText others cell := by
  rw [writtenText, h, writtenText]

/-! ## Taking the first cell off -/

variable {cell : Cell} {rest : List Cell} {edits : List (String × Edit)}

/-- The edits that land below a cell. -/
def editsBelow (cell : Cell) (edits : List (String × Edit)) : List (String × Edit) :=
  edits.filter fun item ↦ !decide (item.1 = cell.uri)

theorem mem_editsBelow {item : String × Edit} :
    item ∈ editsBelow cell edits ↔ item ∈ edits ∧ item.1 ≠ cell.uri := by
  simp [editsBelow]

theorem editsOf_editsBelow {uri : String} (h : uri ≠ cell.uri) :
    editsOf (editsBelow cell edits) uri = editsOf edits uri := by
  have hkeep : ∀ item ∈ edits,
      (decide (item.1 = uri) && !decide (item.1 = cell.uri)) = decide (item.1 = uri) := by
    intro item _
    by_cases hitem : item.1 = uri <;> simp [hitem, h]
  rw [editsOf, editsBelow, List.filter_filter, List.filter_congr hkeep, editsOf]

theorem Lands.below {item : String × Edit} (h : Lands (cell :: rest) item)
    (hne : item.1 ≠ cell.uri) : Lands rest item := by
  refine ⟨?_, h.one_le_start, h.one_le_stop, ?_⟩
  · simpa [hne] using h.mem_uris
  · rw [← linesOf_cons hne.symm]
    exact h.stop_le

/-- The edits of a document are those of its first cell and, further down, those of the rest. -/
theorem map_raise_cons_perm (cell : Cell) (rest : List Cell) (edits : List (String × Edit)) :
    (edits.map (raise (cell :: rest))).Perm (editsOf edits cell.uri ++
      ((editsBelow cell edits).map (raise rest)).map
        (·.down (contentCount cell.text false + 1))) := by
  have hnear : (edits.filter fun item ↦ item.1 = cell.uri).map (raise (cell :: rest)) =
      editsOf edits cell.uri := by
    apply List.map_congr_left
    intro item hitem
    obtain ⟨-, huri⟩ := List.mem_filter.1 hitem
    rw [raise, of_decide_eq_true huri, linesBefore_self, Edit.down_zero]
  have hfar : (editsBelow cell edits).map (raise (cell :: rest)) =
      ((editsBelow cell edits).map (raise rest)).map
        (·.down (contentCount cell.text false + 1)) := by
    rw [List.map_map]
    apply List.map_congr_left
    intro item hitem
    have hne := (mem_editsBelow.1 hitem).2
    rw [raise, linesBefore_cons hne.symm, Function.comp_apply, raise, Edit.down_down]
  rw [← hnear, ← hfar, ← List.map_append]
  exact (List.filter_append_perm _ _).symm.map _

/-! ## Cell by cell -/

/-- A batch on whole lines of a cell that a delimiter line follows is a batch on the cell. -/
theorem applyAll_closeLine_append (delimiter : Delimiter) {text : Text} {batch : List Edit}
    (hclosed : batch ≠ [] → text.endsLine)
    (hstop : ∀ edit ∈ batch, edit.span.stop.line ≤ contentCount text false) {result : Text}
    (h : Edit.applyAll (closeLine text ++ delimiter.text) batch = .ok result) :
    ∃ changed, Edit.applyAll text batch = .ok changed ∧
      result = closeLine changed ++ delimiter.text := by
  by_cases hbatch : batch = []
  · subst hbatch
    rw [Edit.applyAll_nil] at h
    exact ⟨text, Edit.applyAll_nil text, (Except.ok.inj h).symm⟩
  · have hline : text.endsLine := hclosed hbatch
    have hclose : closeLine text = text :=
      closeLine_of_endsEmpty ((Text.endsEmpty_iff text).2 (.inr hline))
    have hcount : text.count feed = contentCount text false := by
      rw [← count_closeLine, hclose]
    rw [hclose] at h
    have hperm : batch.Perm (batch ++ ([] : List Edit).map (·.down (text.count feed))) := by
      rw [List.map_nil, List.append_nil]
    obtain ⟨changed, after, hchanged, hafter, hends, hresult⟩ :=
      Edit.applyAll_append hline hperm (by rwa [hcount]) (by simp) h
    rw [Edit.applyAll_nil] at hafter
    obtain rfl := Except.ok.inj hafter
    refine ⟨changed, hchanged, ?_⟩
    rw [hresult (.inl rfl), closeLine_of_endsEmpty hends]

/-- The last cell gets no edit, or some text is left in it. -/
def KeepsLast (edits : List (String × Edit)) (cells : List Cell) : Prop :=
  ∀ last ∈ cells.getLast?, editsOf edits last.uri = [] ∨ writtenText edits last ≠ []

theorem keepsLast_below (hcell : ∀ other ∈ rest, other.uri ≠ cell.uri) (hrest : rest ≠ [])
    (h : KeepsLast edits (cell :: rest)) : KeepsLast (editsBelow cell edits) rest := by
  intro last hlast
  have hsame : editsOf (editsBelow cell edits) last.uri = editsOf edits last.uri :=
    editsOf_editsBelow (hcell last (List.mem_of_getLast? hlast))
  rw [hsame, writtenText_congr hsame]
  apply h
  rw [List.getLast?_cons_of_ne_nil hrest]
  exact hlast

/-- Either nothing is done to the document or something is left of it. -/
theorem KeepsLast.eq_nil_or_ne_nil (delimiter : Delimiter) {cells : List Cell} (hcells : cells ≠ [])
    (hlands : ∀ item ∈ edits, Lands cells item) (h : KeepsLast edits cells) :
    edits = [] ∨ virtualText delimiter.text (cells.map (written edits)) ≠ [] := by
  match cells with
  | [] => exact absurd rfl hcells
  | [last] =>
    refine (h last rfl).imp_left fun hnone ↦ ?_
    rw [List.eq_nil_iff_forall_not_mem]
    intro item hitem
    have huri : last.uri ∉ edits.map (·.1) := editsOf_eq_nil_iff.1 hnone
    have hmem : item.1 = last.uri := by
      simpa using (hlands item hitem).mem_uris
    rw [← hmem] at huri
    exact huri (List.mem_map_of_mem hitem)
  | first :: second :: rest =>
    right
    rw [List.map_cons, virtualText_cons _ _ (by simp)]
    simp [Delimiter.text]

/-- What a batch does to a document, it does to the first cell and to the document of the rest. -/
theorem applyAll_virtualText_cons (delimiter : Delimiter) (hrest : rest ≠ [])
    (hlands : ∀ item ∈ edits, Lands (cell :: rest) item)
    (hclosed : editsOf edits cell.uri ≠ [] → cell.text.endsLine) {result : Text}
    (h : Edit.applyAll (virtualText delimiter.text (cell :: rest))
      (edits.map (raise (cell :: rest))) = .ok result) :
    Edit.applyAll cell.text (editsOf edits cell.uri) = .ok (writtenText edits cell) ∧
    ∃ below, Edit.applyAll (virtualText delimiter.text rest)
        ((editsBelow cell edits).map (raise rest)) = .ok below ∧
      (editsBelow cell edits = [] ∨ below ≠ [] →
        result = closeLine (writtenText edits cell) ++ delimiter.text ++ below) := by
  have hfirst : (closeLine cell.text ++ delimiter.text).endsLine :=
    Text.endsLine_append delimiter.endsLine_text _
  have hcount := count_closeLine_append cell.text delimiter
  have hperm := map_raise_cons_perm cell rest edits
  have hnear : ∀ edit ∈ editsOf edits cell.uri,
      edit.span.stop.line ≤ contentCount cell.text false := by
    intro edit hedit
    have hle := (hlands _ (mem_editsOf.1 hedit)).stop_le
    rwa [linesOf_self, List.isEmpty_eq_false_iff.2 hrest] at hle
  have hnearSeam : ∀ edit ∈ editsOf edits cell.uri,
      edit.span.stop.line ≤ (closeLine cell.text ++ delimiter.text).count feed := by
    intro edit hedit
    have hle := hnear edit hedit
    omega
  have hfar : ∀ edit ∈ (editsBelow cell edits).map (raise rest),
      1 ≤ edit.span.start.line ∧ 1 ≤ edit.span.stop.line := by
    intro edit hedit
    obtain ⟨item, hitem, rfl⟩ := List.mem_map.1 hedit
    have hitem := hlands item (mem_editsBelow.1 hitem).1
    have hstart := hitem.one_le_start
    have hstop := hitem.one_le_stop
    simp only [raise, Edit.down, Position.down_line]
    omega
  rw [virtualText_cons _ cell hrest] at h
  rw [← hcount] at hperm
  obtain ⟨left, below, hleft, hbelow, -, hjoined⟩ :=
    Edit.applyAll_append hfirst hperm hnearSeam hfar h
  obtain ⟨text, htext, rfl⟩ := applyAll_closeLine_append delimiter hclosed hnear hleft
  obtain rfl := writtenText_of_applyAll htext
  refine ⟨htext, below, hbelow, ?_⟩
  rwa [List.map_eq_nil_iff] at hjoined

/-- The edits of the other cells are those of the document below. -/
theorem lands_below (hlands : ∀ item ∈ edits, Lands (cell :: rest) item) :
    ∀ item ∈ editsBelow cell edits, Lands rest item := by
  intro item hitem
  obtain ⟨hitem, hne⟩ := mem_editsBelow.1 hitem
  exact (hlands item hitem).below hne

/-- The document of a single cell is its text, and so are the edits. -/
theorem applyAll_virtualText_singleton (delimiter : Delimiter)
    (hlands : ∀ item ∈ edits, Lands [cell] item) {result : Text}
    (h : Edit.applyAll (virtualText delimiter.text [cell]) (edits.map (raise [cell])) =
      .ok result) :
    Edit.applyAll cell.text (editsOf edits cell.uri) = .ok result := by
  have hbelow : editsBelow cell edits = [] := by
    rw [List.eq_nil_iff_forall_not_mem]
    exact fun item hitem ↦ absurd (lands_below hlands item hitem).mem_uris List.not_mem_nil
  have hperm := map_raise_cons_perm cell [] edits
  rw [hbelow, List.map_nil, List.map_nil, List.append_nil] at hperm
  exact Edit.applyAll_of_perm hperm h

/-- A batch that a document accepts is accepted by its cells, each of which gets its own edits, and
the document of the changed cells is the changed document. -/
theorem applyAll_virtualText (delimiter : Delimiter) {cells : List Cell}
    (hcells : (cells.map (·.uri)).Nodup) {edits : List (String × Edit)}
    (hlands : ∀ item ∈ edits, Lands cells item)
    (hclosed : ∀ cell ∈ cells.dropLast, editsOf edits cell.uri ≠ [] → cell.text.endsLine)
    {result : Text}
    (h : Edit.applyAll (virtualText delimiter.text cells) (edits.map (raise cells)) = .ok result) :
    (∀ cell ∈ cells,
      Edit.applyAll cell.text (editsOf edits cell.uri) = .ok (writtenText edits cell)) ∧
    (cells.length = 1 ∨ KeepsLast edits cells →
      result = virtualText delimiter.text (cells.map (written edits))) := by
  induction cells generalizing edits result with
  | nil =>
    have hedits : edits = [] := by
      rw [List.eq_nil_iff_forall_not_mem]
      intro item hitem
      exact absurd (hlands item hitem).mem_uris List.not_mem_nil
    subst hedits
    rw [List.map_nil, Edit.applyAll_nil] at h
    obtain rfl := Except.ok.inj h
    exact ⟨by simp, fun _ ↦ rfl⟩
  | cons cell rest ih =>
    obtain ⟨hcell, hrest⟩ := List.nodup_cons.1 hcells
    by_cases hlast : rest = []
    · subst hlast
      have happly := applyAll_virtualText_singleton delimiter hlands h
      have htext := writtenText_of_applyAll happly
      refine ⟨?_, fun _ ↦ htext.symm⟩
      intro other hother
      obtain rfl := List.mem_singleton.1 hother
      rwa [htext]
    · have hne : ∀ other ∈ rest, other.uri ≠ cell.uri := by
        intro other hother heq
        exact hcell (List.mem_map.2 ⟨other, hother, heq⟩)
      have hsame : ∀ other ∈ rest,
          editsOf (editsBelow cell edits) other.uri = editsOf edits other.uri :=
        fun other hother ↦ editsOf_editsBelow (hne other hother)
      have hdropLast : (cell :: rest).dropLast = cell :: rest.dropLast :=
        List.dropLast_cons_of_ne_nil hlast
      have hclosedRest : ∀ other ∈ rest.dropLast,
          editsOf (editsBelow cell edits) other.uri ≠ [] → other.text.endsLine := by
        intro other hother hedits
        rw [hsame other (List.dropLast_subset _ hother)] at hedits
        refine hclosed other ?_ hedits
        rw [hdropLast]
        exact List.mem_cons_of_mem _ hother
      have hlandsRest := lands_below hlands
      obtain ⟨htext, below, hbelow, hjoined⟩ := applyAll_virtualText_cons delimiter hlast hlands
        (hclosed cell (by rw [hdropLast]; exact List.mem_cons_self)) h
      obtain ⟨haccepted, hresult⟩ := ih hrest hlandsRest hclosedRest hbelow
      have hwritten : rest.map (written (editsBelow cell edits)) = rest.map (written edits) := by
        apply List.map_congr_left
        intro other hother
        rw [written, writtenText_congr (hsame other hother), written]
      constructor
      · intro other hother
        rcases List.mem_cons.1 hother with rfl | hother
        · exact htext
        · rw [← hsame other hother, haccepted other hother, writtenText_congr (hsame other hother)]
      · rintro (hone | hkeeps)
        · rw [List.length_cons, Nat.add_eq_right, List.length_eq_zero_iff] at hone
          exact absurd hone hlast
        · have hkeepsRest := keepsLast_below hne hlast hkeeps
          have hbelowText := hresult (.inr hkeepsRest)
          have hleft := hkeepsRest.eq_nil_or_ne_nil delimiter hlast hlandsRest
          rw [← hbelowText] at hleft
          rw [hjoined hleft, hbelowText, hwritten, List.map_cons,
            virtualText_cons _ _ (by simpa using hlast)]
          rfl

end DocumentIndex

end CellWeave
