import CellWeave.Text
import Mathlib.Data.List.Basic
/-!
# Lines of a text

A text is its lines with feeds between them, and putting a text behind another goes on with the line
that the first has open. Lines that are left out are named by their places, counted from 0.
-/

namespace CellWeave

namespace Text

/-- There is one line more than there are feeds. -/
theorem length_lines (text : Text) : text.lines.length = text.count feed + 1 := by
  induction text with
  | nil => rfl
  | cons c rest ih =>
    rw [lines]
    split
    · next h => rw [List.length_cons, ih, h, List.count_cons_self]
    · next h => rw [List.length_modifyHead, ih, List.count_cons_of_ne h]

theorem lines_append_feed (first rest : Text) :
    lines (first ++ feed :: rest) = first.lines ++ rest.lines := by
  induction first with
  | nil => rfl
  | cons c first ih =>
    rw [List.cons_append, lines, lines, ih]
    split
    · rfl
    · obtain ⟨line, others, hlines⟩ := List.exists_cons_of_ne_nil (lines_ne_nil first)
      rw [hlines]
      rfl

theorem lines_of_notMem {text : Text} (h : feed ∉ text) : text.lines = [text] := by
  induction text with
  | nil => rfl
  | cons c rest ih =>
    rw [List.mem_cons, not_or] at h
    rw [lines, if_neg (Ne.symm h.1), ih h.2, List.modifyHead_cons]

theorem dropFinalFeed_of_endsLine {text : Text} (h : text.endsLine) :
    text.dropFinalFeed ++ [feed] = text := by
  obtain ⟨front, rfl⟩ := List.getLast?_eq_some_iff.1 (beq_iff_eq.1 h)
  rw [dropFinalFeed, if_pos h, List.dropLast_concat]

/-- Below a final feed there is one more line, and nothing on it. -/
theorem lines_of_endsLine {text : Text} (h : text.endsLine) :
    text.lines = text.dropFinalFeed.lines ++ [[]] := by
  have hlines := lines_append_feed text.dropFinalFeed []
  rwa [dropFinalFeed_of_endsLine h] at hlines

/-! ## The open line -/

/-- The last line of a text, which goes on with what follows the text. -/
def openLine (text : Text) : Text :=
  text.lines.getLastD []

theorem lines_eq_dropLast_append (text : Text) :
    text.lines = text.lines.dropLast ++ [text.openLine] := by
  have hlast := List.dropLast_concat_getLast (lines_ne_nil text)
  rw [openLine, List.getLastD_eq_getLast?, List.getLast?_eq_some_getLast (lines_ne_nil text)]
  exact hlast.symm

theorem lines_of_openLine_eq_nil {text : Text} (h : text.openLine = []) :
    text.lines = text.lines.dropLast ++ [[]] := by
  have hlines := text.lines_eq_dropLast_append
  rwa [h] at hlines

theorem length_dropLast_lines (text : Text) : text.lines.dropLast.length = text.count feed := by
  rw [List.length_dropLast, length_lines, Nat.add_sub_cancel]

/-- The last line of the first text goes on with the first line of the second. -/
theorem lines_append (first second : Text) :
    lines (first ++ second) =
      first.lines.dropLast ++ second.lines.modifyHead (first.openLine ++ ·) := by
  induction first with
  | nil =>
    obtain ⟨line, others, hlines⟩ := List.exists_cons_of_ne_nil (lines_ne_nil second)
    simp [openLine, lines, hlines]
  | cons c first ih =>
    obtain ⟨line, others, hlines⟩ := List.exists_cons_of_ne_nil (lines_ne_nil first)
    rw [List.cons_append, lines, ih, openLine, openLine, lines, hlines]
    by_cases hc : c = feed
    · simp [hc]
    · cases others with
      | nil => simp [hc, Function.comp_def]
      | cons next others => simp [hc]

theorem openLine_eq_nil_iff (text : Text) : text.openLine = [] ↔ text.endsEmpty := by
  by_cases hline : text.endsLine
  · rw [openLine, lines_of_endsLine hline]
    simp [endsEmpty, hline]
  · rcases List.eq_nil_or_concat' text with rfl | ⟨front, last, rfl⟩
    · simp [openLine, lines, endsEmpty]
    · have hlast : last ≠ feed := by
        simpa [endsLine] using hline
      have hlines : lines [last] = [[last]] := lines_of_notMem (by simpa using hlast.symm)
      rw [openLine, lines_append, hlines]
      simp [endsEmpty, endsLine, hlast]

theorem getElem?_lines_append (first second : Text) :
    (lines (first ++ second))[first.count feed]? =
      some (first.openLine ++ (second.lines.head (lines_ne_nil second))) := by
  obtain ⟨line, others, hlines⟩ := List.exists_cons_of_ne_nil (lines_ne_nil second)
  rw [lines_append, ← length_dropLast_lines, List.getElem?_append_right (Nat.le_refl _)]
  simp [hlines]

theorem head_lines_eq_nil_iff (text : Text) :
    text.lines.head (lines_ne_nil text) = [] ↔ text = [] ∨ text.head? = some feed := by
  cases text with
  | nil => simp [lines]
  | cons c rest =>
    obtain ⟨line, others, hlines⟩ := List.exists_cons_of_ne_nil (lines_ne_nil rest)
    by_cases hc : c = feed <;> simp [lines, hc, hlines]

/-! ## Leaving lines out -/

/-- The lines that are not at one of the places. -/
def leaveOut (places : List Nat) (lines : List Text) : List Text :=
  (lines.zipIdx.filter (·.2 ∉ places)).map (·.1)

variable {places others : List Nat} {front : List Text}

@[simp] theorem leaveOut_nil (lines : List Text) : leaveOut [] lines = lines := by
  have hall : lines.zipIdx.filter (·.2 ∉ ([] : List Nat)) = lines.zipIdx :=
    List.filter_eq_self.2 (by simp)
  rw [leaveOut, hall, List.zipIdx_map_fst]

theorem leaveOut_congr (h : ∀ place, place ∈ places ↔ place ∈ others) (lines : List Text) :
    leaveOut places lines = leaveOut others lines := by
  simp only [leaveOut, h]

theorem leaveOut_append (h : ∀ place ∈ places, place < front.length) (back : List Text) :
    leaveOut places (front ++ back) = leaveOut places front ++ back := by
  have hback : (back.zipIdx front.length).filter (·.2 ∉ places) = back.zipIdx front.length := by
    rw [List.filter_eq_self]
    intro line hline
    have hle := List.le_snd_of_mem_zipIdx hline
    exact decide_eq_true fun hmem ↦ Nat.not_lt.2 hle (h line.2 hmem)
  rw [leaveOut, List.zipIdx_append, List.filter_append, List.map_append, Nat.zero_add, hback,
    List.zipIdx_map_fst, leaveOut]

/-- One place more is left out. -/
theorem leaveOut_concat (h : ∀ place ∈ places, place < front.length) (line : Text)
    (back : List Text) : leaveOut (places ++ [front.length]) (front ++ line :: back) =
      leaveOut places front ++ back := by
  have hfront : leaveOut (places ++ [front.length]) (front ++ [line]) = leaveOut places front := by
    have hkeep : front.zipIdx.filter (·.2 ∉ places ++ [front.length]) =
        front.zipIdx.filter (·.2 ∉ places) := by
      apply List.filter_congr
      intro item hitem
      have hlt := List.snd_lt_of_mem_zipIdx hitem
      have hne : item.2 ≠ front.length := by omega
      simp [hne]
    rw [leaveOut, List.zipIdx_append, List.filter_append, hkeep]
    simp [leaveOut]
  have hplaces : ∀ place ∈ places ++ [front.length], place < (front ++ [line]).length := by
    intro place hplace
    rw [List.length_append, List.length_singleton]
    rcases List.mem_append.1 hplace with hplace | hplace
    · exact Nat.lt_succ_of_lt (h place hplace)
    · rw [List.mem_singleton.1 hplace]
      exact Nat.lt_succ_self _
  rw [List.append_cons front line back, leaveOut_append hplaces, hfront]

theorem length_leaveOut_lt {place : Nat} (hplace : place ∈ places) {lines : List Text}
    (h : place < lines.length) : (leaveOut places lines).length < lines.length := by
  have hmem : (lines[place], place) ∈ lines.zipIdx := by
    simp [List.mem_zipIdx_iff_getElem?]
  rw [leaveOut, List.length_map, ← List.length_zipIdx (l := lines) (i := 0)]
  apply List.length_filter_lt_length_iff_exists.2
  exact ⟨_, hmem, by simpa using hplace⟩

theorem mem_of_mem_leaveOut {lines : List Text} {line : Text} (h : line ∈ leaveOut places lines) :
    line ∈ lines := by
  obtain ⟨item, hitem, rfl⟩ := List.mem_map.1 h
  exact List.fst_mem_of_mem_zipIdx (List.mem_of_mem_filter hitem)

/-! ## Joining lines -/

theorem notMem_of_mem_lines {text line : Text} (h : line ∈ text.lines) : feed ∉ line := by
  induction text generalizing line with
  | nil => simp_all [lines]
  | cons c rest ih =>
    rw [lines] at h
    split at h
    · rcases List.mem_cons.1 h with rfl | h
      · exact List.not_mem_nil
      · exact ih h
    · next hc =>
      obtain ⟨first, others, hlines⟩ := List.exists_cons_of_ne_nil (lines_ne_nil rest)
      rw [hlines] at h ih
      rcases List.mem_cons.1 h with rfl | h
      · have := ih List.mem_cons_self
        simp [Ne.symm hc, this]
      · exact ih (List.mem_cons_of_mem _ h)

/-- Lines without feeds are those of the text that they make. -/
theorem lines_unlines {lines : List Text} (hne : lines ≠ []) (h : ∀ line ∈ lines, feed ∉ line) :
    (unlines lines).lines = lines := by
  induction lines with
  | nil => exact absurd rfl hne
  | cons line rest ih =>
    obtain ⟨hline, hrest⟩ := List.forall_mem_cons.1 h
    by_cases hempty : rest = []
    · rw [hempty]
      exact lines_of_notMem hline
    · rw [unlines_cons line hempty, lines_append_feed, lines_of_notMem hline, ih hempty hrest,
        List.singleton_append]

/-- Without one of its lines a text is another one, unless it is empty. -/
theorem unlines_leaveOut_ne {text : Text} (hne : text ≠ []) {place : Nat} (hplace : place ∈ places)
    (h : place < text.lines.length) : unlines (leaveOut places text.lines) ≠ text := by
  intro heq
  by_cases hnil : leaveOut places text.lines = []
  · rw [hnil] at heq
    exact hne heq.symm
  · have hlines := lines_unlines hnil fun line hline ↦
      notMem_of_mem_lines (mem_of_mem_leaveOut hline)
    rw [heq] at hlines
    have hlt := length_leaveOut_lt hplace h
    rw [← hlines] at hlt
    exact Nat.lt_irrefl _ hlt

@[simp] theorem unlines_leaveOut_empty (places : List Nat) :
    unlines (leaveOut places (lines [])) = [] := by
  by_cases h : 0 ∈ places <;> simp [lines, leaveOut, unlines, h]

end Text

end CellWeave
