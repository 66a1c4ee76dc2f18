import CellWeave.Proofs.LinePairs
import CellWeave.Proofs.Mapping
/-!
# The stretch of a cell

The lines of a cell and the delimiter line above it follow each other in the document, and no other
line shows the cell. The line of the cell that is shown there goes up by one from line to line, but
for the delimiter line, which shows the first line as the line below it does.
-/

namespace CellWeave

namespace DocumentIndex

variable {cell : Cell} {before after cells : List Cell} {uri : String} {line : Int} {n : Nat}

theorem linesBefore_append (h : cell.uri ∉ before.map (·.uri)) :
    linesBefore (before ++ cell :: after) cell.uri = linesAbove before := by
  induction before with
  | nil => exact linesBefore_self
  | cons first rest ih =>
    rw [List.map_cons, List.mem_cons, not_or] at h
    rw [List.cons_append, linesBefore_cons (Ne.symm h.1), ih h.2, linesAbove_cons]

theorem linesOf_append (h : cell.uri ∉ before.map (·.uri)) :
    linesOf (before ++ cell :: after) cell.uri = contentCount cell.text after.isEmpty := by
  induction before with
  | nil => exact linesOf_self
  | cons first rest ih =>
    rw [List.map_cons, List.mem_cons, not_or] at h
    rw [List.cons_append, linesOf_cons (Ne.symm h.1), ih h.2]

theorem notMem_of_nodup_append (h : ((before ++ cell :: after).map (·.uri)).Nodup) :
    cell.uri ∉ before.map (·.uri) := by
  rw [List.map_append, List.map_cons] at h
  exact fun hmem ↦ List.disjoint_of_nodup_append h hmem List.mem_cons_self

/-- A virtual line that shows the cell: one of its own, or the delimiter line above these. -/
structure Stretches (cells : List Cell) (uri : String) (line : Int) : Prop where
  mem_uris : uri ∈ cells.map (·.uri)
  pos : 1 ≤ line
  before_le : linesBefore cells uri ≤ line
  le_add : line ≤ linesBefore cells uri + linesOf cells uri

/-- The line of the cell that a virtual line of its stretch shows. -/
def shownLine (cells : List Cell) (uri : String) (line : Int) : Nat :=
  max 1 (line - linesBefore cells uri).toNat

theorem getElem?_entriesOf_of_linesBefore (huri : uri ∈ cells.map (·.uri))
    (h : linesBefore cells uri = n + 1) : (entriesOf cells)[n]? = some ⟨uri, 1⟩ := by
  induction cells generalizing n with
  | nil => exact absurd huri List.not_mem_nil
  | cons cell rest ih =>
    by_cases hcell : cell.uri = uri
    · rw [← hcell, linesBefore_self] at h
      exact absurd h.symm (Nat.succ_ne_zero n)
    · have hrest := (List.mem_cons.1 huri).resolve_left (Ne.symm hcell)
      rw [linesBefore_cons hcell] at h
      cases rest with
      | nil => exact absurd hrest List.not_mem_nil
      | cons next others =>
        cases hbefore : linesBefore (next :: others) uri with
        | zero =>
          have hnext : next.uri = uri := by
            by_contra hne
            rw [linesBefore_cons hne] at hbefore
            omega
          obtain rfl : n = (contentEntries cell false).length := by
            rw [length_contentEntries]
            omega
          rw [entriesOf, List.getElem?_append_right (Nat.le_refl _), Nat.sub_self, hnext]
          rfl
        | succ below =>
          obtain rfl : n = contentCount cell.text false + 1 + below := by omega
          rw [getElem?_entriesOf_cons cell (List.cons_ne_nil next others)]
          exact ih hrest hbefore

variable {version : Int} {delimiter : Text}

/-- A line on the stretch of a cell shows the cell. -/
theorem Stretches.line?_eq (h : Stretches cells uri line) :
    (ofCells cells version delimiter).line? line = some ⟨uri, shownLine cells uri line⟩ := by
  obtain ⟨huri, hpos, hbefore, hle⟩ := h
  obtain ⟨n, rfl⟩ : ∃ n : Nat, line = (n + 1 : Nat) := ⟨(line - 1).toNat, by omega⟩
  rw [line?_add_one]
  by_cases hdelimiter : linesBefore cells uri = n + 1
  · have hshown : shownLine cells uri (n + 1 : Nat) = 1 := by
      rw [shownLine]
      omega
    rw [hshown]
    exact getElem?_entriesOf_of_linesBefore huri hdelimiter
  · obtain ⟨k, rfl⟩ := Nat.exists_eq_add_of_le (show linesBefore cells uri ≤ n by omega)
    have hshown : shownLine cells uri (linesBefore cells uri + k + 1 : Nat) = k + 1 := by
      rw [shownLine]
      omega
    rw [hshown]
    exact getElem?_entriesOf huri (by omega)

/-- Every line of the document is in the stretch of a cell. -/
theorem exists_stretches (hcells : (cells.map (·.uri)).Nodup)
    (h : ((ofCells cells version delimiter).line? line).isSome) :
    ∃ uri, Stretches cells uri line := by
  obtain ⟨hpos, hle⟩ := (isSome_line?_iff _ _).1 h
  obtain ⟨n, rfl⟩ : ∃ n : Nat, line = (n + 1 : Nat) := ⟨(line - 1).toNat, by omega⟩
  have hn : n < (entriesOf cells).length := Int.ofNat_le.1 hle
  rcases mem_delimiterLines_or_exists hcells hn with hmem | ⟨uri, huri, k, hk, rfl⟩
  · obtain ⟨front, last, next, after, rfl, hline⟩ := exists_of_mem_delimiterLines hmem
    rw [List.append_cons front last] at hcells ⊢
    have hbefore : linesBefore (front ++ [last] ++ next :: after) next.uri =
        linesAbove (front ++ [last]) := linesBefore_append (notMem_of_nodup_append hcells)
    rw [linesAbove_concat] at hbefore
    exact ⟨next.uri, by simp, hpos, by omega, by omega⟩
  · exact ⟨uri, huri, hpos, by omega, by omega⟩

/-- What the line table has for a line. -/
theorem line?_eq_some_iff (hcells : (cells.map (·.uri)).Nodup) {entry : LocalLine} :
    (ofCells cells version delimiter).line? line = some entry ↔
      Stretches cells entry.cell line ∧ entry.line = shownLine cells entry.cell line := by
  constructor
  · intro h
    obtain ⟨uri, huri⟩ := exists_stretches hcells (Option.isSome_of_eq_some h)
    rw [huri.line?_eq] at h
    obtain rfl := Option.some.inj h
    exact ⟨huri, rfl⟩
  · rintro ⟨hstretch, hline⟩
    rw [hstretch.line?_eq, ← hline]

theorem owner_eq_some_iff (hcells : (cells.map (·.uri)).Nodup) :
    (ofCells cells version delimiter).owner line = some uri ↔ Stretches cells uri line := by
  rw [owner, Option.map_eq_some_iff]
  constructor
  · rintro ⟨entry, hentry, rfl⟩
    exact ((line?_eq_some_iff hcells).1 hentry).1
  · intro h
    exact ⟨_, h.line?_eq, rfl⟩

/-- The stretch of a cell has no gaps. -/
theorem Stretches.between {first last : Int} (hfirst : Stretches cells uri first)
    (hlast : Stretches cells uri last) (hle : first ≤ line) (hle' : line ≤ last) :
    Stretches cells uri line :=
  ⟨hfirst.mem_uris, Int.le_trans hfirst.pos hle, Int.le_trans hfirst.before_le hle,
    Int.le_trans hle' hlast.le_add⟩

end DocumentIndex

end CellWeave
