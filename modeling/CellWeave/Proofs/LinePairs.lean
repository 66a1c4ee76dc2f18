import CellWeave.Proofs.Reading
/-!
# Virtual lines and cell lines

Looking a virtual line up and finding the virtual line of a cell line undo each other. The one goes
by the list of all lines and the other by a table of blocks, which keeps the last block of a cell
that is listed twice; what it finds is there all the same. Where the cells are distinct, every
virtual line is a delimiter line or shows one line of one cell, and these come in the order of the
cells.
-/

namespace CellWeave

namespace DocumentIndex

/-- The virtual lines that delimiters stand on. -/
def delimiterLines : List Cell → List Nat
  | [] => []
  | [_] => []
  | cell :: next :: rest =>
    (contentCount cell.text false + 1) ::
      (delimiterLines (next :: rest)).map (contentCount cell.text false + 1 + ·)

variable {cell : Cell} {rest cells : List Cell} {uri other : String} {line n : Nat}

theorem length_delimiterLines (cells : List Cell) :
    (delimiterLines cells).length = cells.length - 1 := by
  fun_induction delimiterLines cells with
  | case1 => rfl
  | case2 => rfl
  | case3 cell next rest ih =>
    rw [List.length_cons, List.length_map, ih]
    rfl

theorem delimiterLines_pos (h : line ∈ delimiterLines cells) : 0 < line := by
  fun_induction delimiterLines cells generalizing line with
  | case1 => exact absurd h List.not_mem_nil
  | case2 => exact absurd h List.not_mem_nil
  | case3 cell next rest ih =>
    rcases List.mem_cons.1 h with rfl | h
    · exact Nat.succ_pos _
    · obtain ⟨below, hbelow, rfl⟩ := List.mem_map.1 h
      exact Nat.add_pos_right _ (ih hbelow)

theorem pairwise_delimiterLines (cells : List Cell) : (delimiterLines cells).Pairwise (· < ·) := by
  fun_induction delimiterLines cells with
  | case1 => exact .nil
  | case2 => exact .nil
  | case3 cell next rest ih =>
    rw [List.pairwise_cons, List.pairwise_map]
    refine ⟨fun line hline ↦ ?_, ih.imp fun h ↦ Nat.add_lt_add_left h _⟩
    obtain ⟨below, hbelow, rfl⟩ := List.mem_map.1 hline
    exact Nat.lt_add_of_pos_right (delimiterLines_pos hbelow)

theorem exists_of_mem_delimiterLines (h : line ∈ delimiterLines cells) :
    ∃ front last next after, cells = front ++ last :: next :: after ∧
      line = linesAbove front + contentCount last.text false + 1 := by
  fun_induction delimiterLines cells generalizing line with
  | case1 => exact absurd h List.not_mem_nil
  | case2 => exact absurd h List.not_mem_nil
  | case3 cell next rest ih =>
    rcases List.mem_cons.1 h with rfl | h
    · refine ⟨[], cell, next, rest, rfl, ?_⟩
      rw [linesAbove, List.map_nil, List.sum_nil, Nat.zero_add]
    · obtain ⟨below, hbelow, rfl⟩ := List.mem_map.1 h
      obtain ⟨front, last, next', after, hcells, rfl⟩ := ih hbelow
      refine ⟨cell :: front, last, next', after, by rw [hcells, List.cons_append], ?_⟩
      rw [linesAbove_cons]
      omega

/-! ## Cells that are listed twice -/

theorem mem_blocksFrom {first : Nat} {block : LineBlock}
    (h : (uri, block) ∈ blocksFrom first cells) :
    ∃ before cell after, cells = before ++ cell :: after ∧ cell.uri = uri ∧
      block = ⟨first + linesAbove before, contentCount cell.text after.isEmpty⟩ := by
  induction cells generalizing first with
  | nil => exact absurd h List.not_mem_nil
  | cons cell rest ih =>
    rw [blocksFrom_cons] at h
    rcases List.mem_cons.1 h with heq | h
    · obtain ⟨rfl, rfl⟩ := Prod.mk.inj heq
      exact ⟨[], cell, rest, rfl, rfl, rfl⟩
    · obtain ⟨before, found, after, rfl, huri, rfl⟩ := ih h
      refine ⟨cell :: before, found, after, rfl, huri, ?_⟩
      rw [linesAbove_cons, Nat.add_assoc, Nat.add_assoc, Nat.add_assoc]

/-- The block that the table has of a cell is a block of the document, whichever it is. -/
theorem line?_of_documentLine (delimiter : Delimiter) {version : Int} {number : Int}
    (h : (ofCells cells version delimiter.text).documentLine uri number = some line) :
    ∃ k : Nat, number = k ∧
      (ofCells cells version delimiter.text).line? line = some ⟨uri, k⟩ := by
  rw [documentLine] at h
  split at h
  · cases h
  · next block hblock =>
    split at h
    · cases h
    · next hnumber =>
      obtain rfl := Option.some.inj h
      obtain ⟨before, cell, after, rfl, rfl, rfl⟩ :=
        mem_blocksFrom (Table.mem_of_mem_ofList (Table.mem_of_get? hblock))
      obtain ⟨k, rfl⟩ : ∃ k : Nat, number = (k + 1 : Nat) := ⟨(number - 1).toNat, by omega⟩
      have hk : k < contentCount cell.text after.isEmpty := by
        dsimp only at hnumber
        omega
      have hplace : 1 + linesAbove before + (((k + 1 : Nat) : Int).toNat) - 1 =
          linesAbove before + k + 1 := by
        rw [Int.toNat_natCast]
        omega
      refine ⟨k + 1, rfl, ?_⟩
      rw [hplace, line?_add_one]
      exact (content_line_ofCells delimiter before cell after version hk).2

/-! ## Distinct cells -/

/-- The lines of a cell end above the delimiter line before the next one. -/
theorem linesBefore_add_linesOf_lt (huri : uri ∈ cells.map (·.uri))
    (hother : other ∈ cells.map (·.uri))
    (h : (cells.map (·.uri)).idxOf uri < (cells.map (·.uri)).idxOf other) :
    linesBefore cells uri + linesOf cells uri < linesBefore cells other := by
  induction cells with
  | nil => exact absurd huri List.not_mem_nil
  | cons cell rest ih =>
    rw [List.map_cons] at huri hother h
    by_cases hself : cell.uri = other
    · rw [hself, List.idxOf_cons_self] at h
      exact absurd h (Nat.not_lt_zero _)
    · have hother := (List.mem_cons.1 hother).resolve_left (Ne.symm hself)
      rw [linesBefore_cons hself]
      by_cases hcell : cell.uri = uri
      · subst hcell
        have hrest : rest.isEmpty = false := by
          cases rest with
          | nil => exact absurd hother List.not_mem_nil
          | cons next rest => rfl
        rw [linesBefore_self, linesOf_self, hrest]
        omega
      · have huri := (List.mem_cons.1 huri).resolve_left (Ne.symm hcell)
        rw [List.idxOf_cons_ne _ hcell, List.idxOf_cons_ne _ hself] at h
        have := ih huri hother (Nat.lt_of_succ_lt_succ h)
        rw [linesBefore_cons hcell, linesOf_cons hcell]
        omega

theorem notMem_delimiterLines (huri : uri ∈ cells.map (·.uri)) (hn : n < linesOf cells uri) :
    linesBefore cells uri + n + 1 ∉ delimiterLines cells := by
  fun_induction delimiterLines cells with
  | case1 => exact List.not_mem_nil
  | case2 => exact List.not_mem_nil
  | case3 cell next rest ih =>
    rw [List.mem_cons, List.mem_map, not_or]
    by_cases hcell : cell.uri = uri
    · subst hcell
      rw [linesOf_self, List.isEmpty_cons] at hn
      rw [linesBefore_self]
      refine ⟨by omega, ?_⟩
      rintro ⟨below, -, hline⟩
      omega
    · have huri : uri ∈ (next :: rest).map (·.uri) :=
        (List.mem_cons.1 huri).resolve_left (Ne.symm hcell)
      rw [linesOf_cons hcell] at hn
      rw [linesBefore_cons hcell]
      refine ⟨by omega, ?_⟩
      rintro ⟨below, hbelow, hline⟩
      obtain rfl : below = linesBefore (next :: rest) uri + n + 1 := by omega
      exact ih huri hn hbelow

theorem length_entriesOf_cons (cell next : Cell) (rest : List Cell) :
    (entriesOf (cell :: next :: rest)).length =
      contentCount cell.text false + 1 + (entriesOf (next :: rest)).length := by
  rw [entriesOf, List.length_append, length_contentEntries, List.length_cons]
  omega

/-- Going down the document, every line is a cell's or a delimiter stands on it. -/
theorem mem_delimiterLines_or_exists (hcells : (cells.map (·.uri)).Nodup)
    (h : line < (entriesOf cells).length) :
    line + 1 ∈ delimiterLines cells ∨ ∃ uri ∈ cells.map (·.uri), ∃ n < linesOf cells uri,
      line = linesBefore cells uri + n := by
  have hfirst {cell : Cell} {rest : List Cell} {line : Nat}
      (hline : line < contentCount cell.text rest.isEmpty) :
      ∃ uri ∈ (cell :: rest).map (·.uri), ∃ n < linesOf (cell :: rest) uri,
        line = linesBefore (cell :: rest) uri + n :=
    ⟨cell.uri, List.mem_cons_self, line, by rwa [linesOf_self],
      by rw [linesBefore_self, Nat.zero_add]⟩
  fun_induction delimiterLines cells generalizing line with
  | case1 => exact absurd h (Nat.not_lt_zero _)
  | case2 cell =>
    rw [entriesOf, length_contentEntries] at h
    exact .inr (hfirst h)
  | case3 cell next rest ih =>
    have hcell : cell.uri ∉ (next :: rest).map (·.uri) := (List.nodup_cons.1 hcells).1
    rw [length_entriesOf_cons] at h
    rw [List.mem_cons, List.mem_map]
    rcases Nat.lt_trichotomy line (contentCount cell.text false) with hlt | rfl | hgt
    · exact .inr (hfirst hlt)
    · exact .inl (.inl rfl)
    · -- Below the delimiter line the document is that of the other cells, further down.
      obtain ⟨below, rfl⟩ := Nat.exists_eq_add_of_le (Nat.succ_le_of_lt hgt)
      have hbelow : below < (entriesOf (next :: rest)).length := by omega
      rcases ih (List.nodup_cons.1 hcells).2 hbelow with hdelimiter | ⟨uri, huri, n, hn, rfl⟩
      · exact .inl (.inr ⟨below + 1, hdelimiter, by omega⟩)
      · have hne : cell.uri ≠ uri := by
          rintro rfl
          exact hcell huri
        refine .inr ⟨uri, List.mem_cons_of_mem _ huri, n, ?_, ?_⟩
        · rwa [linesOf_cons hne]
        · rw [linesBefore_cons hne]
          omega

theorem sum_linesOf (hcells : (cells.map (·.uri)).Nodup) :
    (cells.map fun cell ↦ linesOf cells cell.uri).sum + (delimiterLines cells).length =
      (entriesOf cells).length := by
  fun_induction delimiterLines cells with
  | case1 => rfl
  | case2 cell =>
    rw [entriesOf, length_contentEntries, List.map_singleton, linesOf_self, List.sum_singleton]
    rfl
  | case3 cell next rest ih =>
    have hcell : cell.uri ∉ (next :: rest).map (·.uri) := (List.nodup_cons.1 hcells).1
    have hothers : ((next :: rest).map fun other ↦ linesOf (cell :: next :: rest) other.uri) =
        (next :: rest).map fun other ↦ linesOf (next :: rest) other.uri := by
      apply List.map_congr_left
      intro other hother
      exact linesOf_cons fun heq ↦ hcell (List.mem_map.2 ⟨other, hother, heq.symm⟩)
    rw [List.map_cons, List.sum_cons, hothers, linesOf_self, List.isEmpty_cons, List.length_cons,
      List.length_map, length_entriesOf_cons, ← ih (List.nodup_cons.1 hcells).2]
    omega

theorem lineCountOf_ofCells (hcells : (cells.map (·.uri)).Nodup) (version : Int) (delimiter : Text)
    (huri : uri ∈ cells.map (·.uri)) :
    (ofCells cells version delimiter).lineCountOf uri = linesOf cells uri := by
  have hblocks : (ofCells cells version delimiter).blocks = blocksFrom 1 cells :=
    Table.ofList_eq_self (by rwa [map_fst_blocksFrom])
  rw [lineCountOf, hblocks, get?_blocksFrom, if_pos huri]

/-- Virtual lines and lines of cells are the same lines but for the delimiters, one between any two
neighbours, and are in the same order. -/
structure PairsLines (index : DocumentIndex) (delimiter : Delimiter) (cells : List Cell) :
    Prop where
  delimiter_count : (delimiterLines cells).length = cells.length - 1
  delimiter_sorted : (delimiterLines cells).Pairwise (· < ·)
  delimiter_line : ∀ line ∈ delimiterLines cells,
    index.text.lines[line - 1]? = some delimiter.line ∧
      (∃ cell ∈ cells, index.line? line = some ⟨cell.uri, 1⟩) ∧
      ∀ uri number, index.documentLine uri number ≠ some line
  content_line : ∀ line : Nat, 1 ≤ line → line ≤ index.lineCount → line ∉ delimiterLines cells →
    ∃ entry, index.line? line = some entry ∧
      ∀ uri number, index.documentLine uri number = some line ↔
        uri = entry.cell ∧ number = entry.line
  isSome_iff : ∀ uri number, (index.documentLine uri number).isSome ↔
    uri ∈ cells.map (·.uri) ∧ 1 ≤ number ∧ number ≤ index.lineCountOf uri
  lt_iff : ∀ uri number line other number' line', index.documentLine uri number = some line →
    index.documentLine other number' = some line' →
      (line < line' ↔ (cells.map (·.uri)).idxOf uri < (cells.map (·.uri)).idxOf other ∨
        uri = other ∧ number < number')
  sum_counts : (cells.map fun cell ↦ index.lineCountOf cell.uri).sum +
    (delimiterLines cells).length = index.lineCount

section Distinct

variable {delimiter : Delimiter} {version : Int} (hcells : (cells.map (·.uri)).Nodup)

theorem line?_delimiterLines (h : line ∈ delimiterLines cells) :
    (ofCells cells version delimiter.text).text.lines[line - 1]? = some delimiter.line ∧
      ∃ cell ∈ cells, (ofCells cells version delimiter.text).line? line = some ⟨cell.uri, 1⟩ := by
  obtain ⟨front, last, next, after, rfl, rfl⟩ := exists_of_mem_delimiterLines h
  have hline := delimiter_line_ofCells delimiter front last next after version
  rw [Nat.add_sub_cancel, line?_add_one]
  exact ⟨hline.1, next, by simp, hline.2⟩

include hcells in
theorem documentLine_ne_of_mem_delimiterLines (h : line ∈ delimiterLines cells) (uri : String)
    (number : Int) :
    (ofCells cells version delimiter.text).documentLine uri number ≠ some line := by
  intro hline
  obtain ⟨huri, hpos, hle, hshown⟩ := (documentLine_ofCells hcells _ _ _ _ _).1 hline
  obtain ⟨n, rfl⟩ : ∃ n : Nat, number = n + 1 := ⟨(number - 1).toNat, by omega⟩
  obtain rfl : line = linesBefore cells uri + n + 1 := by omega
  exact notMem_delimiterLines huri (by omega) h

include hcells in
theorem exists_entry_of_notMem_delimiterLines (hpos : 1 ≤ line)
    (hle : line ≤ (ofCells cells version delimiter.text).lineCount)
    (h : line ∉ delimiterLines cells) :
    ∃ entry, (ofCells cells version delimiter.text).line? line = some entry ∧
      ∀ uri number, (ofCells cells version delimiter.text).documentLine uri number = some line ↔
        uri = entry.cell ∧ number = entry.line := by
  obtain ⟨place, rfl⟩ := Nat.exists_eq_add_of_le' hpos
  obtain ⟨uri, huri, n, hn, rfl⟩ :=
    (mem_delimiterLines_or_exists hcells (Nat.lt_of_succ_le hle)).resolve_left h
  have hshown : (ofCells cells version delimiter.text).documentLine uri (n + 1 : Nat) =
      some (linesBefore cells uri + n + 1) :=
    (documentLine_ofCells hcells _ _ _ _ _).2 ⟨huri, by omega, by omega, by omega⟩
  obtain ⟨k, hk, hentry⟩ := line?_of_documentLine delimiter hshown
  obtain rfl := Int.ofNat_inj.1 hk
  refine ⟨⟨uri, n + 1⟩, hentry, fun other number ↦ ⟨fun hother ↦ ?_, ?_⟩⟩
  · obtain ⟨k, rfl, hfound⟩ := line?_of_documentLine delimiter hother
    obtain ⟨rfl, rfl⟩ := LocalLine.mk.inj (Option.some.inj (hfound.symm.trans hentry))
    exact ⟨rfl, rfl⟩
  · rintro ⟨rfl, rfl⟩
    exact hshown

include hcells in
theorem isSome_documentLine_iff (uri : String) (number : Int) :
    ((ofCells cells version delimiter.text).documentLine uri number).isSome ↔
      uri ∈ cells.map (·.uri) ∧ 1 ≤ number ∧
        number ≤ (ofCells cells version delimiter.text).lineCountOf uri := by
  rw [Option.isSome_iff_exists]
  constructor
  · rintro ⟨line, hline⟩
    obtain ⟨huri, hpos, hle, -⟩ := (documentLine_ofCells hcells _ _ _ _ _).1 hline
    rw [lineCountOf_ofCells hcells version delimiter.text huri]
    exact ⟨huri, hpos, hle⟩
  · rintro ⟨huri, hpos, hle⟩
    rw [lineCountOf_ofCells hcells version delimiter.text huri] at hle
    exact ⟨linesBefore cells uri + number.toNat,
      (documentLine_ofCells hcells _ _ _ _ _).2 ⟨huri, hpos, hle, by omega⟩⟩

include hcells in
/-- Lines further down are those of later cells, and later lines of one cell. -/
theorem documentLine_lt_iff {number number' : Int} {line' : Nat}
    (h : (ofCells cells version delimiter.text).documentLine uri number = some line)
    (h' : (ofCells cells version delimiter.text).documentLine other number' = some line') :
    line < line' ↔ (cells.map (·.uri)).idxOf uri < (cells.map (·.uri)).idxOf other ∨
      uri = other ∧ number < number' := by
  obtain ⟨huri, hpos, hle, hline⟩ := (documentLine_ofCells hcells _ _ _ _ _).1 h
  obtain ⟨hother, hpos', hle', hline'⟩ := (documentLine_ofCells hcells _ _ _ _ _).1 h'
  rcases Nat.lt_trichotomy ((cells.map (·.uri)).idxOf uri) ((cells.map (·.uri)).idxOf other) with
    hlt | heq | hgt
  · have := linesBefore_add_linesOf_lt huri hother hlt
    exact iff_of_true (by omega) (.inl hlt)
  · obtain rfl := (List.idxOf_inj huri).1 heq
    simp only [Nat.lt_irrefl, false_or, true_and]
    omega
  · have := linesBefore_add_linesOf_lt hother huri hgt
    refine iff_of_false (by omega) ?_
    rintro (hlt | ⟨rfl, -⟩)
    · exact Nat.lt_asymm hlt hgt
    · exact Nat.lt_irrefl _ hgt

end Distinct

/-- What is found for a line of a cell is looked up as that line, whichever cells are listed. Where
they are distinct the two mappings undo each other on all lines but those of the delimiters. -/
theorem pairsLines_ofCells {text : Text} {delimiter : Delimiter}
    (hdelimiter : Delimiter.parse text = .ok delimiter) (cells : List Cell) (version : Int) :
    (∀ uri number line, (ofCells cells version text).documentLine uri number = some line →
      ∃ k : Nat, number = k ∧ (ofCells cells version text).line? line = some ⟨uri, k⟩) ∧
    ((cells.map (·.uri)).Nodup → (ofCells cells version text).PairsLines delimiter cells) := by
  obtain rfl := Delimiter.text_of_parse hdelimiter
  refine ⟨fun uri number line ↦ line?_of_documentLine delimiter, fun hcells ↦ ?_⟩
  constructor
  · exact length_delimiterLines cells
  · exact pairwise_delimiterLines cells
  · intro line hline
    obtain ⟨htext, hentry⟩ := line?_delimiterLines hline
    exact ⟨htext, hentry, documentLine_ne_of_mem_delimiterLines hcells hline⟩
  · exact fun line ↦ exists_entry_of_notMem_delimiterLines hcells
  · exact isSome_documentLine_iff hcells
  · exact fun uri number line other number' line' ↦ documentLine_lt_iff hcells
  · have hcounts : (cells.map fun cell ↦
        (ofCells cells version delimiter.text).lineCountOf cell.uri) =
          cells.map fun cell ↦ linesOf cells cell.uri := by
      apply List.map_congr_left
      intro cell hcell
      exact lineCountOf_ofCells hcells version delimiter.text (List.mem_map_of_mem hcell)
    rw [hcounts, sum_linesOf hcells]
    rfl

/-- The second line of a cell that is listed twice, and a document of three distinct cells. -/
theorem pairsLines_ofCells_mixedCells :
    Delimiter.parse ['#', feed] = .ok ⟨['#'], by decide⟩ ∧
      (ofCells mixedCells 1 ['#', feed]).documentLine "a" 2 = some 5 ∧
      (ofCells mixedCells 1 ['#', feed]).line? 5 = some ⟨"a", 2⟩ ∧
      (mixedCells.tail.map (·.uri)).Nodup ∧ delimiterLines mixedCells.tail = [2, 5] ∧
      (ofCells mixedCells.tail 1 ['#', feed]).PairsLines ⟨['#'], by decide⟩ mixedCells.tail := by
  have hdelimiter : Delimiter.parse ['#', feed] = .ok ⟨['#'], by decide⟩ := rfl
  have hshown : (ofCells mixedCells 1 ['#', feed]).documentLine "a" 2 = some 5 := by decide
  have hcells : (mixedCells.tail.map (·.uri)).Nodup := by decide
  obtain ⟨k, hk, hentry⟩ := (pairsLines_ofCells hdelimiter mixedCells 1).1 _ _ _ hshown
  obtain rfl : 2 = k := Int.ofNat_inj.1 hk
  exact ⟨hdelimiter, hshown, hentry, hcells, by decide,
    (pairsLines_ofCells hdelimiter mixedCells.tail 1).2 hcells⟩

end DocumentIndex

end CellWeave
