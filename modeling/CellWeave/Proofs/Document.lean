import CellWeave.Delimiter
import CellWeave.DocumentIndex
import CellWeave.Proofs.Lines
import CellWeave.Proofs.Table
/-!
# Where the lines of a cell stand

A cell's lines stand in the virtual document one after another, below those of the cells before it
and one delimiter line for each of these. The line table, the blocks and the text are built apart
from one another, and all three have the cell at that place.
-/

namespace CellWeave

namespace Delimiter

theorem endsLine_text (delimiter : Delimiter) : delimiter.text.endsLine := by
  simp [text, Text.endsLine]

theorem count_text (delimiter : Delimiter) : delimiter.text.count feed = 1 := by
  rw [text, List.count_append, List.count_eq_zero_of_not_mem delimiter.line_unbroken,
    List.count_singleton_self]

end Delimiter

namespace DocumentIndex

/-! ## Counting lines -/

/-- How many virtual lines come before the cell. -/
def linesBefore : List Cell → String → Nat
  | [], _ => 0
  | cell :: rest, uri =>
    if cell.uri = uri then 0 else contentCount cell.text false + 1 + linesBefore rest uri

/-- How many virtual lines are the cell's. -/
def linesOf : List Cell → String → Nat
  | [], _ => 0
  | cell :: rest, uri =>
    if cell.uri = uri then contentCount cell.text rest.isEmpty else linesOf rest uri

variable {cell : Cell} {rest cells : List Cell} {uri : String}

@[simp] theorem linesBefore_self : linesBefore (cell :: rest) cell.uri = 0 :=
  if_pos rfl

theorem linesBefore_cons (h : cell.uri ≠ uri) :
    linesBefore (cell :: rest) uri = contentCount cell.text false + 1 + linesBefore rest uri :=
  if_neg h

@[simp] theorem linesOf_self :
    linesOf (cell :: rest) cell.uri = contentCount cell.text rest.isEmpty :=
  if_pos rfl

theorem linesOf_cons (h : cell.uri ≠ uri) : linesOf (cell :: rest) uri = linesOf rest uri :=
  if_neg h

theorem closeLine_of_endsEmpty {text : Text} (h : text.endsEmpty) : closeLine text = text :=
  if_pos h

/-- Before a delimiter a cell has as many lines as it has feeds there. -/
theorem count_closeLine (text : Text) : (closeLine text).count feed = contentCount text false := by
  rw [closeLine, contentCount, Text.length_lines]
  by_cases h : text.endsEmpty
  · rw [if_pos h, if_pos (by simp [h]), Nat.add_sub_cancel]
  · rw [if_neg h, if_neg (by simp [h]), List.count_append, List.count_singleton_self]

/-- The part of the document up to the second cell. -/
theorem count_closeLine_append (text : Text) (delimiter : Delimiter) :
    (closeLine text ++ delimiter.text).count feed = contentCount text false + 1 := by
  rw [List.count_append, count_closeLine, delimiter.count_text]

theorem virtualText_cons (delimiter : Text) (cell : Cell) {rest : List Cell} (h : rest ≠ []) :
    virtualText delimiter (cell :: rest) =
      closeLine cell.text ++ delimiter ++ virtualText delimiter rest := by
  cases rest with
  | nil => exact absurd rfl h
  | cons next rest => rfl

/-- What the document has above a cell, each cell before it with the delimiter that follows. -/
def textAbove (delimiter : Text) (before : List Cell) : Text :=
  before.flatMap fun cell ↦ closeLine cell.text ++ delimiter

/-- What the document has of a cell itself. -/
def ownText (text : Text) (isLast : Bool) : Text :=
  if isLast then text else closeLine text

/-- What the document has below a cell, from the delimiter on. -/
def textBelow (delimiter : Text) (after : List Cell) : Text :=
  if after.isEmpty then [] else delimiter ++ virtualText delimiter after

/-- The document around a cell. -/
theorem virtualText_append (delimiter : Text) (before : List Cell) (cell : Cell)
    (after : List Cell) : virtualText delimiter (before ++ cell :: after) =
      textAbove delimiter before ++
        (ownText cell.text after.isEmpty ++ textBelow delimiter after) := by
  induction before with
  | nil =>
    cases after with
    | nil => exact (List.append_nil _).symm
    | cons next rest =>
      rw [List.nil_append, virtualText_cons delimiter cell (List.cons_ne_nil next rest)]
      exact List.append_assoc _ _ _
  | cons first rest ih =>
    have hne : rest ++ cell :: after ≠ [] := List.append_ne_nil_of_right_ne_nil rest nofun
    let below := ownText cell.text after.isEmpty ++ textBelow delimiter after
    calc
      virtualText delimiter (first :: (rest ++ cell :: after)) =
          closeLine first.text ++ delimiter ++ virtualText delimiter (rest ++ cell :: after) :=
        virtualText_cons delimiter first hne
      _ = closeLine first.text ++ delimiter ++ (textAbove delimiter rest ++ below) := by
        rw [ih]
      _ = textAbove delimiter (first :: rest) ++ below := by
        rw [textAbove, textAbove, List.flatMap_cons, List.append_assoc _ (rest.flatMap _)]

/-- The document shows the cells' texts and nothing else of them. -/
theorem virtualText_congr (delimiter : Text) {cells others : List Cell}
    (h : cells.map (·.text) = others.map (·.text)) :
    virtualText delimiter cells = virtualText delimiter others := by
  induction cells generalizing others with
  | nil =>
    obtain rfl := List.map_eq_nil_iff.1 h.symm
    rfl
  | cons cell rest ih =>
    obtain ⟨other, others, rfl, htext, hrest⟩ := List.map_eq_cons_iff.1 h.symm
    by_cases hempty : rest = []
    · subst hempty
      obtain rfl := List.map_eq_nil_iff.1 hrest
      exact htext.symm
    · have hothers : others ≠ [] := by
        rintro rfl
        exact hempty (List.map_eq_nil_iff.1 hrest.symm)
      rw [virtualText_cons delimiter cell hempty, virtualText_cons delimiter other hothers,
        ih hrest.symm, htext]

/-! ## The blocks -/

theorem blocksFrom_cons (first : Nat) (cell : Cell) (rest : List Cell) :
    blocksFrom first (cell :: rest) = (cell.uri, ⟨first, contentCount cell.text rest.isEmpty⟩) ::
      blocksFrom (first + contentCount cell.text false + 1) rest := by
  cases rest <;> rfl

theorem map_fst_blocksFrom (first : Nat) (cells : List Cell) :
    (blocksFrom first cells).map (·.1) = cells.map (·.uri) := by
  induction cells generalizing first with
  | nil => rfl
  | cons cell rest ih => rw [blocksFrom_cons, List.map_cons, ih, List.map_cons]

/-- The block of a cell begins after the lines of the cells before it. -/
theorem get?_blocksFrom (first : Nat) (cells : List Cell) (uri : String) :
    Table.get? (blocksFrom first cells) uri =
      if uri ∈ cells.map (·.uri) then some ⟨first + linesBefore cells uri, linesOf cells uri⟩
      else none := by
  induction cells generalizing first with
  | nil => rfl
  | cons cell rest ih =>
    rw [blocksFrom_cons, Table.get?_cons]
    by_cases h : cell.uri = uri
    · subst h
      simp
    · rw [if_neg (Ne.symm h), ih, linesBefore_cons h, linesOf_cons h]
      simp only [List.map_cons, List.mem_cons, Ne.symm h, false_or]
      split
      · rw [Nat.add_assoc, Nat.add_assoc, Nat.add_assoc]
      · rfl

/-- The cells of an index are those it was made of. -/
theorem mem_uris_ofCells {version : Int} {delimiter : Text} :
    uri ∈ (ofCells cells version delimiter).uris ↔ uri ∈ cells.map (·.uri) := by
  rw [← map_fst_blocksFrom 1 cells]
  exact (Table.keys_ofList (blocksFrom 1 cells)).2 uri

theorem nodup_uris_ofCells (cells : List Cell) (version : Int) (delimiter : Text) :
    (ofCells cells version delimiter).uris.Nodup :=
  (Table.keys_ofList (blocksFrom 1 cells)).1

theorem uris_ofCells (hcells : (cells.map (·.uri)).Nodup) (version : Int) (delimiter : Text) :
    (ofCells cells version delimiter).uris = cells.map (·.uri) := by
  rw [← map_fst_blocksFrom 1 cells] at hcells ⊢
  exact congrArg Table.keys (Table.ofList_eq_self hcells)

/-- A line of a cell is shown below the lines before the cell, if the cell has such a line. -/
theorem documentLine_ofCells (hcells : (cells.map (·.uri)).Nodup) (version : Int)
    (delimiter : Text) (uri : String) (line : Int) (shown : Nat) :
    (ofCells cells version delimiter).documentLine uri line = some shown ↔
      uri ∈ cells.map (·.uri) ∧ 1 ≤ line ∧ line ≤ linesOf cells uri ∧
        (shown : Int) = linesBefore cells uri + line := by
  have hblocks : (ofCells cells version delimiter).blocks = blocksFrom 1 cells :=
    Table.ofList_eq_self (by rwa [map_fst_blocksFrom])
  rw [documentLine, hblocks, get?_blocksFrom]
  by_cases huri : uri ∈ cells.map (·.uri)
  · rw [if_pos huri]
    dsimp only
    by_cases hline : line < 1 ∨ line > linesOf cells uri
    · rw [if_pos hline]
      constructor
      · exact nofun
      · omega
    · rw [if_neg hline, Option.some.injEq]
      constructor
      · intro h
        refine ⟨huri, ?_⟩
        omega
      · rintro ⟨-, h⟩
        omega
  · rw [if_neg huri]
    simp [huri]

/-! ## The line table -/

theorem length_contentEntries (cell : Cell) (isLast : Bool) :
    (contentEntries cell isLast).length = contentCount cell.text isLast := by
  rw [contentEntries, List.length_map, List.length_range]

theorem getElem?_contentEntries {isLast : Bool} {n : Nat}
    (h : n < contentCount cell.text isLast) :
    (contentEntries cell isLast)[n]? = some ⟨cell.uri, n + 1⟩ := by
  rw [contentEntries, List.getElem?_map, List.getElem?_range h]
  rfl

/-- The entries up to the second cell are the first cell's and one for the delimiter line. -/
theorem getElem?_entriesOf_cons (cell : Cell) {rest : List Cell} (h : rest ≠ []) (n : Nat) :
    (entriesOf (cell :: rest))[contentCount cell.text false + 1 + n]? = (entriesOf rest)[n]? := by
  cases rest with
  | nil => exact absurd rfl h
  | cons next rest =>
    rw [entriesOf, List.getElem?_append_right (by rw [length_contentEntries]; omega),
      length_contentEntries, Nat.add_assoc, Nat.add_sub_cancel_left, Nat.add_comm 1 n,
      List.getElem?_cons_succ]

theorem getElem?_entriesOf {n : Nat} (huri : uri ∈ cells.map (·.uri)) (h : n < linesOf cells uri) :
    (entriesOf cells)[linesBefore cells uri + n]? = some ⟨uri, n + 1⟩ := by
  induction cells with
  | nil => exact absurd huri List.not_mem_nil
  | cons cell rest ih =>
    by_cases heq : cell.uri = uri
    · subst heq
      rw [linesOf_self] at h
      rw [linesBefore_self, Nat.zero_add]
      cases rest with
      | nil => exact getElem?_contentEntries h
      | cons next rest =>
        rw [entriesOf, List.getElem?_append_left (by rwa [length_contentEntries])]
        exact getElem?_contentEntries h
    · have hrest : uri ∈ rest.map (·.uri) := by
        simpa [Ne.symm heq] using huri
      have hne : rest ≠ [] := by
        rintro rfl
        exact absurd hrest List.not_mem_nil
      rw [linesOf_cons heq] at h
      rw [linesBefore_cons heq, Nat.add_assoc, getElem?_entriesOf_cons cell hne]
      exact ih hrest h

theorem cell_mem_of_mem_entriesOf {entry : LocalLine} (h : entry ∈ entriesOf cells) :
    entry.cell ∈ cells.map (·.uri) := by
  have hcontent {cell : Cell} {isLast : Bool} (h : entry ∈ contentEntries cell isLast) :
      entry.cell = cell.uri := by
    obtain ⟨n, -, rfl⟩ := List.mem_map.1 h
    rfl
  induction cells with
  | nil => exact absurd h List.not_mem_nil
  | cons cell rest ih =>
    cases rest with
    | nil => simp [hcontent h]
    | cons next rest =>
      rw [entriesOf, List.mem_append, List.mem_cons] at h
      rcases h with h | rfl | h
      · simp [hcontent h]
      · simp
      · exact List.mem_cons_of_mem _ (ih h)

/-- A line shows one of the cells of the document. -/
theorem cell_mem_of_line? {version : Int} {delimiter : Text} {line : Int} {entry : LocalLine}
    (h : (ofCells cells version delimiter).line? line = some entry) :
    entry.cell ∈ cells.map (·.uri) := by
  rw [line?] at h
  split at h
  · simp at h
  · exact cell_mem_of_mem_entriesOf (List.mem_of_getElem? h)

/-- The line table has a line of a cell where the cell's block has it. -/
theorem line?_ofCells (hcells : (cells.map (·.uri)).Nodup) {version : Int} {delimiter : Text}
    {uri : String} {line : Int} {shown : Nat}
    (h : (ofCells cells version delimiter).documentLine uri line = some shown) :
    (ofCells cells version delimiter).line? shown = some ⟨uri, line.toNat⟩ := by
  obtain ⟨huri, hpos, hle, hshown⟩ := (documentLine_ofCells hcells version delimiter _ _ _).1 h
  obtain ⟨n, rfl⟩ : ∃ n : Nat, line = n + 1 := ⟨(line - 1).toNat, by omega⟩
  have hentry : (entriesOf cells)[linesBefore cells uri + n]? = some ⟨uri, n + 1⟩ :=
    getElem?_entriesOf huri (by omega)
  have hplace : (↑shown - 1 : Int).toNat = linesBefore cells uri + n := by omega
  rw [line?, if_neg (by omega), hplace]
  simpa [ofCells] using hentry

end DocumentIndex

end CellWeave
