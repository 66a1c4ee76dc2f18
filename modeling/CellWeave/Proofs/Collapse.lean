import CellWeave.Proofs.Lines
import CellWeave.Proofs.Replaced
/-!
# Collapsing deletions

A deletion over several lines merges the two lines it begins and ends on. Where every span is
replaced and the merged line comes out empty, the line goes too, with one feed. The batch is made in
one pass, which decides on a line before the rest of the text is written, and takes the feed away
where it stands: after the deletion, or before it at the end of the text. It comes to the same as
replacing every span and leaving those lines out.
-/

namespace CellWeave

open Text (openLine leaveOut)

namespace Edit

def startIn (text : Text) (edit : Edit) : Nat :=
  (text.offset edit.span.start).toOption.getD 0

/-- The place of the line that holds the point where the edit was, with every span replaced. -/
def madeOn (text : Text) (edits : List Edit) (edit : Edit) : Nat :=
  (replacedTo text edits (edit.startIn text)).count feed

/-- A deletion over several lines, with nothing on the line it merges them into and no edit that
begins where it ends. -/
def collapses (text : Text) (edits : List Edit) (edit : Edit) : Bool :=
  edit.isMultiline && edit.replacement.isEmpty && edits.all (·.span.start ≠ edit.span.stop) &&
    (replaced text edits).lines[madeOn text edits edit]? == some []

def collapsedLines (text : Text) (edits : List Edit) : List Nat :=
  (edits.filter (collapses text edits)).map (madeOn text edits)

end Edit

/-! ## Lines left out on the way -/

/-- What is written is what is replaced with some lines left out that are closed already, and stays
so whatever follows. -/
structure Trails (places : List Nat) (written plain : Text) : Prop where
  lines_append : ∀ later, (written ++ later).lines = leaveOut places (plain ++ later).lines
  lt_count : ∀ place ∈ places, place < plain.count feed
  sorted : places.Pairwise (· < ·)

namespace Trails

variable {places : List Nat} {written plain : Text}

theorem nil : Trails [] [] [] :=
  ⟨fun later ↦ (Text.leaveOut_nil _).symm, by simp, .nil⟩

theorem append (h : Trails places written plain) (later : Text) :
    Trails places (written ++ later) (plain ++ later) := by
  constructor
  · intro last
    rw [List.append_assoc, h.lines_append, List.append_assoc]
  · intro place hplace
    rw [List.count_append]
    exact Nat.lt_add_right _ (h.lt_count place hplace)
  · exact h.sorted

theorem lt_length (h : Trails places written plain) :
    ∀ place ∈ places, place < plain.lines.dropLast.length := by
  rw [plain.length_dropLast_lines]
  exact h.lt_count

theorem lines (h : Trails places written plain) :
    written.lines = leaveOut places plain.lines.dropLast ++ [plain.openLine] := by
  have hlines := h.lines_append []
  rwa [List.append_nil, List.append_nil, plain.lines_eq_dropLast_append,
    Text.leaveOut_append h.lt_length] at hlines

theorem endsEmpty_iff (h : Trails places written plain) : written.endsEmpty ↔ plain.endsEmpty := by
  have hopen : written.openLine = plain.openLine := by
    rw [openLine, h.lines, List.getLastD_concat]
  rw [← Text.openLine_eq_nil_iff, hopen, Text.openLine_eq_nil_iff]

/-- An empty open line is left out together with the feed that closes it. -/
theorem addFeed (h : Trails places written plain) (hopen : plain.openLine = []) :
    Trails (places ++ [plain.count feed]) written (plain ++ [feed]) := by
  constructor
  · intro later
    have hhead : later.lines.modifyHead (plain.openLine ++ ·) = later.lines := by
      rw [hopen]
      exact congrFun List.modifyHead_id _
    have hclosed : plain.lines.dropLast ++ [] :: later.lines = (plain ++ feed :: later).lines := by
      rw [List.append_cons, ← Text.lines_of_openLine_eq_nil hopen, Text.lines_append_feed]
    calc (written ++ later).lines
      _ = leaveOut places plain.lines.dropLast ++ later.lines := by
        rw [h.lines_append, Text.lines_append, hhead, Text.leaveOut_append h.lt_length]
      _ = leaveOut (places ++ [plain.count feed]) (plain.lines.dropLast ++ [] :: later.lines) := by
        rw [← plain.length_dropLast_lines, Text.leaveOut_concat h.lt_length]
      _ = leaveOut (places ++ [plain.count feed]) (plain ++ [feed] ++ later).lines := by
        rw [hclosed, List.append_assoc, List.singleton_append]
  · intro place hplace
    rw [List.count_append, List.count_singleton_self]
    rcases List.mem_append.1 hplace with hplace | hplace
    · exact Nat.lt_succ_of_lt (h.lt_count place hplace)
    · rw [List.mem_singleton.1 hplace]
      exact Nat.lt_succ_self _
  · apply List.pairwise_append.2
    refine ⟨h.sorted, List.pairwise_singleton _ _, fun place hplace last hlast ↦ ?_⟩
    rw [List.mem_singleton.1 hlast]
    exact h.lt_count place hplace

/-- At the end an empty open line is left out together with the feed before it. -/
theorem dropFinalFeed (h : Trails places written plain) (hopen : plain.openLine = []) :
    written.dropFinalFeed = Text.unlines (leaveOut (places ++ [plain.count feed]) plain.lines) := by
  have hleft : leaveOut (places ++ [plain.count feed]) plain.lines =
      leaveOut places plain.lines.dropLast := by
    have hconcat := Text.leaveOut_concat h.lt_length [] []
    rwa [plain.length_dropLast_lines, ← Text.lines_of_openLine_eq_nil hopen, List.append_nil]
      at hconcat
  have hlines := h.lines
  rw [hopen] at hlines
  rw [hleft]
  have hempty : written.endsEmpty := by
    rw [h.endsEmpty_iff, ← Text.openLine_eq_nil_iff, hopen]
  by_cases hline : written.endsLine
  · rw [Text.lines_of_endsLine hline] at hlines
    rw [← List.append_cancel_right hlines, Text.unlines_lines]
  · obtain rfl := ((Text.endsEmpty_iff _).1 hempty).resolve_right hline
    have hnil : leaveOut places plain.lines.dropLast = [] := by
      have hlength := congrArg List.length hlines
      simpa [Text.lines] using hlength
    rw [hnil]
    rfl

end Trails

namespace Edit

open PlacedEdit (Fits Apart emptiesLine splice)

section Accepted

variable {text : Text} {edits : List Edit}

theorem startIn_eq {item : PlacedEdit} (h : item.Fits text) :
    item.edit.startIn text = item.start := by
  have hoffset := (text.offset_eq_ok_iff _ _).2 ⟨h.start_le, h.start_position⟩
  rw [startIn, hoffset]
  rfl

theorem replacedTo_prefix (text : Text) (edits : List Edit) {first last : Nat} (h : first ≤ last) :
    replacedTo text edits first <+: replacedTo text edits last := by
  induction last, h using Nat.le_induction with
  | base => exact List.prefix_rfl
  | succ last _ ih =>
    rw [replacedTo_succ]
    exact ih.trans (List.prefix_append _ _)

variable {done rest : List PlacedEdit} {item : PlacedEdit}

/-- The edits before one begin and end before it, and those after it begin after it ends. -/
theorem splits (h : placeAll text edits = .ok (done ++ item :: rest)) :
    (∀ other ∈ done, other.Apart item) ∧ (∀ other ∈ rest, item.Apart other) := by
  obtain ⟨-, -, hapart⟩ := (placeAll_eq_ok_iff _ _ _).1 h
  obtain ⟨-, hrest, hdone⟩ := List.pairwise_append.1 hapart
  exact ⟨fun other hother ↦ hdone other hother item List.mem_cons_self,
    (List.pairwise_cons.1 hrest).1⟩

theorem start_lt_stop {item : PlacedEdit} (h : item.Fits text)
    (hmultiline : item.edit.isMultiline) : item.start < item.stop := by
  rw [← text.positionAt_lt_iff h.start_le h.stop_le, h.start_position, h.stop_position]
  exact .inl (of_decide_eq_true hmultiline)

theorem madeOn_eq (h : placeAll text edits = .ok (done ++ item :: rest)) :
    madeOn text edits item.edit = (replacedTo text edits item.start).count feed := by
  obtain ⟨-, hfits, -⟩ := (placeAll_eq_ok_iff _ _ _).1 h
  rw [madeOn, startIn_eq (hfits item (List.mem_append_right _ List.mem_cons_self))]

/-- To see that no later edit begins where one ends, it takes the next edit only. -/
theorem head_start_ne_iff (h : placeAll text edits = .ok (done ++ item :: rest)) :
    rest.head?.map (·.start) ≠ some item.stop ↔ ∀ other ∈ rest, item.stop < other.start := by
  obtain ⟨-, hrest⟩ := splits h
  cases rest with
  | nil => exact iff_of_true nofun nofun
  | cons next rest =>
    have hnext := (hrest next List.mem_cons_self).2
    have hfirst : ¬ next.start = item.stop ↔ item.stop < next.start := by omega
    rw [List.head?_cons, Option.map_some, ne_eq, Option.some.injEq, List.forall_mem_cons, hfirst]
    refine ⟨fun hlt ↦ ⟨hlt, fun other hother ↦ ?_⟩, fun hlt ↦ hlt.1⟩
    rw [List.append_cons] at h
    exact Nat.lt_trans hlt ((splits h).2 other hother).1

/-- No edit before one over several lines begins where that one ends. -/
theorem all_start_ne_iff (h : placeAll text edits = .ok (done ++ item :: rest))
    (hmultiline : item.edit.isMultiline) :
    edits.all (·.span.start ≠ item.edit.span.stop) ↔ ∀ other ∈ rest, item.stop < other.start := by
  obtain ⟨-, hfits, -⟩ := (placeAll_eq_ok_iff _ _ _).1 h
  obtain ⟨hdone, hrest⟩ := splits h
  have hitem := hfits item (List.mem_append_right _ List.mem_cons_self)
  have hlt := start_lt_stop hitem hmultiline
  have hstart (other : PlacedEdit) (hother : other ∈ done ++ item :: rest) :
      other.edit.span.start = item.edit.span.stop ↔ other.start = item.stop := by
    rw [← (hfits other hother).start_position, ← hitem.stop_position,
      text.positionAt_inj (hfits other hother).start_le hitem.stop_le]
  simp only [List.all_eq_true, decide_eq_true_eq, ne_eq]
  constructor
  · intro hne other hother
    have hmem : other ∈ done ++ item :: rest :=
      List.mem_append_right _ (List.mem_cons_of_mem _ hother)
    have hne := hne other.edit ((mem_iff_of_placeAll h).2 ⟨other, hmem, rfl⟩)
    rw [hstart other hmem] at hne
    exact Nat.lt_of_le_of_ne (hrest other hother).2 (Ne.symm hne)
  · intro hlater edit hedit
    obtain ⟨other, hother, rfl⟩ := (mem_iff_of_placeAll h).1 hedit
    rw [hstart other hother]
    rcases List.mem_append.1 hother with hother | hother
    · have := (hdone other hother).1
      omega
    · rcases List.mem_cons.1 hother with rfl | hother
      · exact Nat.ne_of_lt hlt
      · exact Nat.ne_of_gt (hlater other hother)

/-- What follows the point where a deletion was, if no edit begins where it ends. -/
theorem replaced_eq_append (h : placeAll text edits = .ok (done ++ item :: rest))
    (hempty : item.edit.replacement = []) (hnext : ∀ other ∈ rest, item.stop < other.start) :
    ∃ later, replaced text edits = replacedTo text edits item.start ++
      (text[item.stop]?.toList ++ later) ∧ (text[item.stop]? = none → later = []) := by
  obtain ⟨-, hfits, -⟩ := (placeAll_eq_ok_iff _ _ _).1 h
  obtain ⟨hdone, -⟩ := splits h
  have hmem : item ∈ done ++ item :: rest := List.mem_append_right _ List.mem_cons_self
  have hle := (hfits item hmem).start_le_stop
  have hstop := (hfits item hmem).stop_le
  have hothers : ∀ other ∈ done ++ item :: rest,
      other.start ≤ item.start ∨ item.stop + 1 ≤ other.start := by
    intro other hother
    rcases List.mem_append.1 hother with hother | hother
    · exact .inl (Nat.le_of_lt (hdone other hother).1)
    · rcases List.mem_cons.1 hother with rfl | hother
      · exact .inl (Nat.le_refl _)
      · exact .inr (hnext other hother)
  have hafter : replacedTo text edits (item.stop + 1) =
      replacedTo text edits item.start ++ text[item.stop]?.toList := by
    rw [replacedTo_after h hmem (Nat.lt_succ_of_le hle) (Nat.succ_le_succ hstop) hothers, hempty,
      List.append_nil, text.slice_succ (Nat.le_refl _), text.slice_self, List.nil_append]
  obtain ⟨later, hlater⟩ := replacedTo_prefix text edits (Nat.succ_le_succ hstop)
  refine ⟨later, ?_, fun hnone ↦ ?_⟩
  · rw [← List.append_assoc, ← hafter, hlater, replaced]
  · have heq : item.stop = text.length := Nat.le_antisymm hstop (List.getElem?_eq_none_iff.1 hnone)
    rw [heq] at hlater
    exact List.append_right_eq_self.1 hlater

theorem getElem?_madeOn_iff (h : placeAll text edits = .ok (done ++ item :: rest))
    (hempty : item.edit.replacement = []) (hnext : ∀ other ∈ rest, item.stop < other.start) :
    (replaced text edits).lines[madeOn text edits item.edit]? = some [] ↔
      (text[item.stop]? = none ∨ text[item.stop]? = some feed) ∧
        (replacedTo text edits item.start).endsEmpty := by
  obtain ⟨later, hreplaced, hlater⟩ := replaced_eq_append h hempty hnext
  have hhead : text[item.stop]?.toList ++ later = [] ∨
      (text[item.stop]?.toList ++ later).head? = some feed ↔
        text[item.stop]? = none ∨ text[item.stop]? = some feed := by
    cases hchar : text[item.stop]? with
    | none => simp [hlater hchar]
    | some c => simp
  rw [madeOn_eq h, hreplaced, Text.getElem?_lines_append, Option.some.injEq,
    List.append_eq_nil_iff, Text.openLine_eq_nil_iff, Text.head_lines_eq_nil_iff, hhead, and_comm]

/-- The pass can tell what a deletion will leave on its line before the rest is written. -/
theorem emptiesLine_eq_collapses (h : placeAll text edits = .ok (done ++ item :: rest))
    {written : Text} (hwritten : written.endsEmpty ↔
      (replacedTo text edits item.start ++ item.edit.replacement).endsEmpty) :
    emptiesLine text written item (rest.head?.map (·.start)) = collapses text edits item.edit := by
  rw [Bool.eq_iff_iff]
  simp only [emptiesLine, collapses, Bool.and_eq_true, Bool.or_eq_true, bne_iff_ne, beq_iff_eq,
    and_assoc]
  apply and_congr_right
  intro hmultiline
  apply and_congr_right
  intro hreplacement
  have hempty : item.edit.replacement = [] := List.isEmpty_iff.1 hreplacement
  rw [head_start_ne_iff h, all_start_ne_iff h hmultiline]
  apply and_congr_right
  intro hnext
  rw [getElem?_madeOn_iff h hempty hnext, hwritten, hempty, List.append_nil]

theorem of_collapses (h : placeAll text edits = .ok (done ++ item :: rest))
    (hitem : collapses text edits item.edit) :
    item.edit.isMultiline ∧ item.edit.replacement = [] ∧
      (∀ other ∈ rest, item.stop < other.start) ∧
      (text[item.stop]? = none ∨ text[item.stop]? = some feed) ∧
      (replacedTo text edits item.start).endsEmpty := by
  simp only [collapses, Bool.and_eq_true, beq_iff_eq, and_assoc] at hitem
  obtain ⟨hmultiline, hreplacement, hstart, hline⟩ := hitem
  have hempty : item.edit.replacement = [] := List.isEmpty_iff.1 hreplacement
  have hnext := (all_start_ne_iff h hmultiline).1 hstart
  exact ⟨hmultiline, hempty, hnext, (getElem?_madeOn_iff h hempty hnext).1 hline⟩

/-! ## One pass -/

/-- Where the pass stands between two edits. -/
structure Midway (text : Text) (edits : List Edit) (done rest : List PlacedEdit) (cursor : Nat)
    (places : List Nat) (written plain : Text) : Prop where
  placed : placeAll text edits = .ok (done ++ rest)
  cursor_le : cursor ≤ text.length
  le_start : ∀ item ∈ rest, cursor ≤ item.start
  trails : Trails places written plain
  plain_append_slice : ∀ last, cursor ≤ last → last ≤ text.length + 1 →
    (∀ item ∈ done, item.start < last) → (∀ item ∈ rest, last ≤ item.start) →
      replacedTo text edits last = plain ++ text.slice cursor last

namespace Midway

variable {cursor : Nat} {places : List Nat} {written plain : Text}

theorem start (h : placeAll text edits = .ok rest) : Midway text edits [] rest 0 [] [] [] := by
  refine ⟨h, Nat.zero_le _, fun _ _ ↦ Nat.zero_le _, .nil, fun last _ hlast _ hrest ↦ ?_⟩
  exact replacedTo_between h (Nat.zero_le last) hlast fun item hitem ↦ .inr (hrest item hitem)

theorem replacedTo_start (h : Midway text edits done (item :: rest) cursor places written plain) :
    replacedTo text edits item.start = plain ++ text.slice cursor item.start := by
  obtain ⟨-, hfits, -⟩ := (placeAll_eq_ok_iff _ _ _).1 h.placed
  obtain ⟨hdone, hrest⟩ := splits h.placed
  have hle := (hfits item (List.mem_append_right _ List.mem_cons_self)).start_le
  apply h.plain_append_slice _ (h.le_start item List.mem_cons_self) (Nat.le_succ_of_le hle)
  · exact fun other hother ↦ (hdone other hother).1
  · exact List.forall_mem_cons.2
      ⟨Nat.le_refl _, fun other hother ↦ Nat.le_of_lt (hrest other hother).1⟩

/-- One edit is made. -/
theorem make (h : Midway text edits done (item :: rest) cursor places written plain) :
    Midway text edits (done ++ [item]) rest item.stop places
      (written ++ text.slice cursor item.start ++ item.edit.replacement)
      (replacedTo text edits item.start ++ item.edit.replacement) := by
  obtain ⟨-, hfits, -⟩ := (placeAll_eq_ok_iff _ _ _).1 h.placed
  obtain ⟨hdone, hrest⟩ := splits h.placed
  have hmem : item ∈ done ++ item :: rest := List.mem_append_right _ List.mem_cons_self
  constructor
  · rw [List.append_assoc, List.singleton_append]
    exact h.placed
  · exact (hfits item hmem).stop_le
  · exact fun other hother ↦ (hrest other hother).2
  · rw [h.replacedTo_start]
    exact (h.trails.append _).append _
  · intro last hstop hlast hdoneLt hrestLe
    apply replacedTo_after h.placed hmem (hdoneLt item (by simp)) hlast
    intro other hother
    rcases List.mem_append.1 hother with hother | hother
    · exact .inl (Nat.le_of_lt (hdone other hother).1)
    · rcases List.mem_cons.1 hother with rfl | hother
      · exact .inl (Nat.le_refl _)
      · exact .inr (hrestLe other hother)

/-- The feed of an empty line is passed over. -/
theorem addFeed (h : Midway text edits done rest cursor places written plain)
    (hopen : plain.openLine = []) (hfeed : text[cursor]? = some feed)
    (hrest : ∀ item ∈ rest, cursor < item.start) :
    Midway text edits done rest (cursor + 1) (places ++ [plain.count feed]) written
      (plain ++ [feed]) := by
  obtain ⟨hlt, -⟩ := List.getElem?_eq_some_iff.1 hfeed
  refine ⟨h.placed, hlt, hrest, h.trails.addFeed hopen, fun last hcursor hlast hdone hrestLe ↦ ?_⟩
  have hslice : text.slice cursor (cursor + 1) = [feed] := by
    rw [text.slice_succ (Nat.le_refl _), text.slice_self, hfeed, Option.toList_some,
      List.nil_append]
  rw [h.plain_append_slice last (Nat.le_of_succ_le hcursor) hlast hdone hrestLe,
    ← text.slice_append_slice (Nat.le_succ cursor) hcursor, hslice, List.append_assoc]

theorem replaced_eq (h : Midway text edits done [] cursor places written plain) :
    replaced text edits = plain ++ text.drop cursor := by
  obtain ⟨-, hfits, -⟩ := (placeAll_eq_ok_iff _ _ _).1 h.placed
  have hdone : ∀ item ∈ done, item.start < text.length + 1 := fun item hitem ↦
    Nat.lt_succ_of_le (hfits item (List.mem_append_left _ hitem)).start_le
  have hdrop : text.slice cursor (text.length + 1) = text.drop cursor := by
    rw [Text.slice, List.take_of_length_le]
    rw [List.length_drop]
    exact Nat.sub_le_sub_right (Nat.le_succ _) _
  have hrest : ∀ item ∈ ([] : List PlacedEdit), text.length + 1 ≤ item.start :=
    List.forall_mem_nil _
  rw [replaced, h.plain_append_slice _ (Nat.le_succ_of_le h.cursor_le) (Nat.le_refl _) hdone hrest,
    hdrop]

/-- From any place in the pass on, the lines of the collapsing edits that are still to be made are
left out, below those left out already. -/
theorem splice_eq (h : Midway text edits done rest cursor places written plain)
    {later : List Nat}
    (hlater : later = ((rest.map (·.edit)).filter (collapses text edits)).map (madeOn text edits)) :
    splice text cursor written rest =
        Text.unlines (leaveOut (places ++ later) (replaced text edits).lines) ∧
      (places ++ later).Pairwise (· < ·) := by
  induction rest generalizing done cursor places written plain later with
  | nil =>
    obtain rfl : later = [] := hlater
    rw [List.append_nil, splice, h.replaced_eq, ← h.trails.lines_append, Text.unlines_lines]
    exact ⟨rfl, h.trails.sorted⟩
  | cons item rest ih =>
    have hmake := h.make
    have hcollapses := emptiesLine_eq_collapses h.placed hmake.trails.endsEmpty_iff
    rw [splice]
    simp only [hcollapses]
    by_cases hitem : collapses text edits item.edit
    · obtain ⟨-, hempty, hnext, hchar, hends⟩ := of_collapses h.placed hitem
      have hopen : (replacedTo text edits item.start ++ item.edit.replacement).openLine = [] := by
        rw [hempty, List.append_nil, Text.openLine_eq_nil_iff, hends]
      have hmade : madeOn text edits item.edit =
          (replacedTo text edits item.start ++ item.edit.replacement).count feed := by
        rw [madeOn_eq h.placed, hempty, List.append_nil]
      rw [if_pos hitem]
      rw [List.map_cons, List.filter_cons_of_pos hitem, List.map_cons, hmade] at hlater
      rcases hchar with hnone | hfeed
      · have hend : text.length ≤ item.stop := List.getElem?_eq_none_iff.1 hnone
        obtain ⟨-, hfits, -⟩ := (placeAll_eq_ok_iff _ _ _).1 h.placed
        obtain rfl : rest = [] := List.eq_nil_iff_forall_not_mem.2 fun other hother ↦ by
          have := hnext other hother
          have := (hfits other (by simp [hother])).start_le
          omega
        obtain rfl : later = [_] := hlater
        rw [if_neg (Nat.not_lt.2 hend), splice, List.drop_eq_nil_of_le hend, List.append_nil,
          hmake.trails.dropFinalFeed hopen, hmake.replaced_eq, List.drop_eq_nil_of_le hend,
          List.append_nil]
        exact ⟨rfl, (hmake.trails.addFeed hopen).sorted⟩
      · obtain ⟨hlt, -⟩ := List.getElem?_eq_some_iff.1 hfeed
        rw [if_pos hlt, hlater, List.append_cons]
        exact ih (hmake.addFeed hopen hfeed hnext) rfl
    · rw [if_neg hitem]
      rw [List.map_cons, List.filter_cons_of_neg hitem] at hlater
      exact ih hmake hlater

end Midway

end Accepted

/-- A pass over a batch leaves out the lines of the collapsing edits, each once. -/
theorem splice_eq_unlines_leaveOut {text : Text} {edits : List Edit} {items : List PlacedEdit}
    (hitems : placeAll text edits = .ok items) :
    splice text 0 [] items =
        Text.unlines (leaveOut (collapsedLines text edits) (replaced text edits).lines) ∧
      (collapsedLines text edits).Nodup := by
  obtain ⟨hperm, -, -⟩ := (placeAll_eq_ok_iff _ _ _).1 hitems
  obtain ⟨hsplice, hsorted⟩ := (Midway.start hitems).splice_eq rfl
  have hplaces : (((items.map (·.edit)).filter (collapses text edits)).map
      (madeOn text edits)).Perm (collapsedLines text edits) :=
    (hperm.filter _).map _
  rw [List.nil_append] at hsplice hsorted
  constructor
  · rw [hsplice, Text.leaveOut_congr fun place ↦ hplaces.mem_iff]
  · exact hplaces.nodup_iff.1 (hsorted.imp Nat.ne_of_lt)

/-- A batch made in one pass is the text with every span replaced, less the line of each collapsing
edit; no two of them have one line. -/
theorem applyAll_eq_unlines_leaveOut {text : Text} {edits : List Edit} {result : Text}
    (h : applyAll text edits = .ok result) :
    result = Text.unlines (leaveOut (collapsedLines text edits) (replaced text edits).lines) ∧
      (collapsedLines text edits).Nodup := by
  obtain ⟨items, hitems, rfl⟩ := (applyAll_eq_ok_iff _ _ _).1 h
  exact splice_eq_unlines_leaveOut hitems

/-- Takes the first two lines away and the last two, and puts a feed into the line between. -/
def cutAround : List Edit :=
  [⟨.of 4 0 5 2, []⟩, ⟨.of 3 1 3 2, ['x', feed]⟩, ⟨.of 1 0 2 2, []⟩]

theorem applyAll_cutAround :
    let text : Text := ['a', feed, 'b', 'c', feed, 'd', 'e', feed, feed, 'f', 'g']
    applyAll text cutAround = .ok ['d', 'x', feed] ∧
      replaced text cutAround = [feed, 'd', 'x', feed, feed] ∧
      ((['d', 'x', feed] : Text) =
          Text.unlines (leaveOut (collapsedLines text cutAround) (replaced text cutAround).lines) ∧
        (collapsedLines text cutAround).Nodup) := by
  have happly : applyAll ['a', feed, 'b', 'c', feed, 'd', 'e', feed, feed, 'f', 'g'] cutAround =
      .ok ['d', 'x', feed] :=
    applyAll_of_placed [⟨0, 4, ⟨.of 1 0 2 2, []⟩⟩, ⟨6, 7, ⟨.of 3 1 3 2, ['x', feed]⟩⟩,
      ⟨8, 11, ⟨.of 4 0 5 2, []⟩⟩] (by decide) (by decide) (by decide)
  exact ⟨happly, by decide +kernel, applyAll_eq_unlines_leaveOut happly⟩

end Edit

end CellWeave
