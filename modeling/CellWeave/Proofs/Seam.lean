import CellWeave.Proofs.Batch
/-!
# Batches on two texts put together

Let one text be made of whole lines and another follow it. A batch on the two, none of whose edits
reaches over the seam, is a batch on each, and its result is the two results put together. One case
is apart: a deletion at the very end that leaves the second text empty takes a feed away, and only
the whole has one before it. So the second result must not be empty, or nothing done to it.
-/

namespace CellWeave

namespace Text

theorem endsEmpty_iff (text : Text) : text.endsEmpty ↔ text = [] ∨ text.endsLine := by
  simp [endsEmpty]

theorem endsEmpty_append {first : Text} (h : first.endsEmpty) (second : Text) :
    (first ++ second).endsEmpty = second.endsEmpty := by
  cases second with
  | nil => simpa [endsEmpty] using h
  | cons c rest => simp [endsEmpty, endsLine, List.getLast?_append, List.getLast?_cons]

theorem endsLine_append {second : Text} (h : second.endsLine) (first : Text) :
    (first ++ second).endsLine := by
  have hlast : second.getLast? = some feed := beq_iff_eq.1 h
  simp [endsLine, List.getLast?_append, hlast]

theorem endsLine_drop {text : Text} (h : text.endsLine) {n : Nat} (hn : n < text.length) :
    endsLine (text.drop n) := by
  have hlast : text.getLast? = some feed := beq_iff_eq.1 h
  rw [endsLine, List.getLast?_drop, if_neg (Nat.not_le.2 hn), hlast]
  rfl

theorem dropFinalFeed_append (first : Text) {second : Text} (h : second ≠ []) :
    (first ++ second).dropFinalFeed = first ++ second.dropFinalFeed := by
  obtain ⟨front, last, rfl⟩ := List.eq_nil_or_concat second |>.resolve_left h
  by_cases hlast : last = feed <;> simp [dropFinalFeed, endsLine, hlast, ← List.append_assoc]

theorem slice_append_drop (text : Text) {start stop : Nat} (h : start ≤ stop) :
    text.slice start stop ++ text.drop stop = text.drop start := by
  obtain ⟨n, rfl⟩ := Nat.exists_eq_add_of_le h
  rw [slice, Nat.add_sub_cancel_left, ← List.drop_drop, List.take_append_drop]

theorem slice_append_slice (text : Text) {start middle stop : Nat} (h : start ≤ middle)
    (h' : middle ≤ stop) :
    text.slice start middle ++ text.slice middle stop = text.slice start stop := by
  obtain ⟨m, rfl⟩ := Nat.exists_eq_add_of_le h
  obtain ⟨n, rfl⟩ := Nat.exists_eq_add_of_le h'
  rw [slice, slice, slice, Nat.add_sub_cancel_left, Nat.add_sub_cancel_left, Nat.add_assoc,
    Nat.add_sub_cancel_left, List.take_add, List.drop_drop]

theorem slice_append_left (first second : Text) {start stop : Nat} (h : stop ≤ first.length) :
    (first ++ second).slice start stop = first.slice start stop := by
  rcases Nat.le_total start stop with hle | hle
  · rw [slice, slice, List.drop_append_of_le_length (Nat.le_trans hle h),
      List.take_append_of_le_length]
    rw [List.length_drop]
    omega
  · simp [slice, Nat.sub_eq_zero_of_le hle]

theorem slice_append_right (first second : Text) (start stop : Nat) :
    (first ++ second).slice (first.length + start) (first.length + stop) =
      second.slice start stop := by
  rw [slice, slice, Nat.add_sub_add_left, List.drop_append, List.drop_eq_nil_of_le (by omega),
    List.nil_append, Nat.add_sub_cancel_left]

end Text

/-! ## Edits further down -/

def Edit.down (edit : Edit) (lines : Nat) : Edit :=
  ⟨⟨edit.span.start.down lines, edit.span.stop.down lines⟩, edit.replacement⟩

theorem Edit.down_injective (lines : Nat) : Function.Injective (Edit.down · lines) := by
  intro first second h
  simp only [Edit.down, Edit.mk.injEq, Span.mk.injEq] at h
  obtain ⟨⟨hstart, hstop⟩, hreplacement⟩ := h
  obtain ⟨⟨start, stop⟩, replacement⟩ := first
  obtain ⟨⟨start', stop'⟩, replacement'⟩ := second
  obtain rfl := Position.down_injective hstart
  obtain rfl := Position.down_injective hstop
  obtain rfl : replacement = replacement' := hreplacement
  rfl

@[simp] theorem Edit.isMultiline_down (edit : Edit) (lines : Nat) :
    (edit.down lines).isMultiline = edit.isMultiline := by
  simp [Edit.isMultiline, Edit.down, Position.down]

namespace PlacedEdit

/-- The same edit with so many lines and characters put before it. -/
def shift (item : PlacedEdit) (lines chars : Nat) : PlacedEdit :=
  ⟨chars + item.start, chars + item.stop, item.edit.down lines⟩

theorem shift_apart_iff {first second : PlacedEdit} {lines chars : Nat} :
    (first.shift lines chars).Apart (second.shift lines chars) ↔ first.Apart second := by
  simp [Apart, shift]

/-! ## Writing a text in parts -/

/-- It is of no account where the next edit begins, if not just where this one ends. -/
theorem emptiesLine_of_ne (text written : Text) {item : PlacedEdit} {next : Option Nat}
    (h : next ≠ some item.stop) :
    emptiesLine text written item next = emptiesLine text written item none := by
  have hnone : (none : Option Nat) ≠ some item.stop := nofun
  rw [emptiesLine, bne_iff_ne.2 h, emptiesLine, bne_iff_ne.2 hnone]

theorem emptiesLine_append_left {first : Text} (second written : Text) {item : PlacedEdit}
    (h : item.stop < first.length) (next : Option Nat) :
    emptiesLine (first ++ second) written item next = emptiesLine first written item next := by
  simp [emptiesLine, List.getElem?_append_left h]

theorem emptiesLine_append_right (first second : Text) {before : Text} (hbefore : before.endsEmpty)
    (written : Text) (item : PlacedEdit) (next : Option Nat) (lines : Nat) :
    emptiesLine (first ++ second) (before ++ written) (item.shift lines first.length)
      (next.map (first.length + ·)) = emptiesLine second written item next := by
  have hnext : (next.map (first.length + ·) != some (first.length + item.stop)) =
      (next != some item.stop) := by
    cases next <;> simp [bne]
  have hreplacement : (item.edit.down lines).replacement = item.edit.replacement := rfl
  simp [emptiesLine, shift, List.getElem?_append_right, Text.endsEmpty_append hbefore, hnext,
    hreplacement]

/-- What stands before the first edit can be written beforehand. -/
theorem splice_advance (text : Text) {cursor place : Nat} (h : cursor ≤ place) (written : Text)
    {items : List PlacedEdit} (hitems : ∀ item ∈ items.head?, place ≤ item.start) :
    splice text cursor written items =
      splice text place (written ++ text.slice cursor place) items := by
  cases items with
  | nil => rw [splice, splice, List.append_assoc, Text.slice_append_drop text h]
  | cons item rest =>
    have hplace : place ≤ item.start := hitems item rfl
    rw [splice, splice, List.append_assoc written (text.slice cursor place),
      Text.slice_append_slice text h hplace]

/-- Edits inside the first of two texts are made there before the second is turned to. -/
theorem splice_append_left (first second : Text) {cursor : Nat} (hcursor : cursor ≤ first.length)
    (written : Text) {items later : List PlacedEdit}
    (hitems : ∀ item ∈ items, item.start ≤ item.stop ∧ item.stop < first.length)
    (hlater : ∀ item ∈ later.head?, first.length ≤ item.start) :
    splice (first ++ second) cursor written (items ++ later) =
      splice (first ++ second) first.length (splice first cursor written items) later := by
  induction items generalizing cursor written with
  | nil =>
    rw [List.nil_append, splice_advance _ hcursor written hlater,
      Text.slice_append_left first second (Nat.le_refl _), splice, Text.slice,
      List.take_of_length_le (Nat.le_of_eq List.length_drop)]
  | cons item rest ih =>
    obtain ⟨⟨hforward, hstop⟩, hrest⟩ := List.forall_mem_cons.1 hitems
    have hempties (w : Text) : emptiesLine (first ++ second) w item
        ((rest ++ later).head?.map start) = emptiesLine first w item (rest.head?.map start) := by
      rw [emptiesLine_append_left second w hstop]
      cases rest with
      | cons next rest => rfl
      | nil =>
        cases later with
        | nil => rfl
        | cons next later =>
          have hnext : first.length ≤ next.start := hlater next rfl
          apply emptiesLine_of_ne
          rw [List.nil_append, List.head?_cons, Option.map_some, ne_eq, Option.some.injEq]
          omega
    have hslice : (first ++ second).slice cursor item.start = first.slice cursor item.start :=
      Text.slice_append_left first second (Nat.le_trans hforward (Nat.le_of_lt hstop))
    have hwhole : item.stop < (first ++ second).length := by
      rw [List.length_append]
      omega
    rw [List.cons_append, splice, splice, hslice, hempties, if_pos hstop, if_pos hwhole]
    split
    · exact ih hstop _ hrest
    · exact ih (Nat.le_of_lt hstop) _ hrest

/-- What comes of whole lines is whole lines, or nothing. -/
theorem splice_endsEmpty {text : Text} (htext : text.endsLine) {cursor : Nat}
    (hcursor : cursor ≤ text.length) {written : Text}
    (hwritten : cursor = text.length → written.endsEmpty) {items : List PlacedEdit}
    (hitems : ∀ item ∈ items, item.stop < text.length) :
    (splice text cursor written items).endsEmpty := by
  induction items generalizing cursor written with
  | nil =>
    rw [splice]
    rcases Nat.lt_or_eq_of_le hcursor with hlt | heq
    · rw [Text.endsEmpty_iff]
      exact .inr (Text.endsLine_append (Text.endsLine_drop htext hlt) written)
    · rw [heq, List.drop_length, List.append_nil]
      exact hwritten heq
  | cons item rest ih =>
    obtain ⟨hstop, hrest⟩ := List.forall_mem_cons.1 hitems
    rw [splice]
    split
    · next hempties =>
      exact ih hstop (fun _ ↦ ((Bool.and_eq_true _ _).mp hempties).2) hrest
    · exact ih (Nat.le_of_lt hstop) (fun h ↦ absurd h (Nat.ne_of_lt hstop)) hrest

/-- Edits of the second of two texts are made as on that text alone, after what came of the
first. -/
theorem splice_append_right (first second : Text) (lines : Nat) {before : Text}
    (hbefore : before.endsEmpty) (cursor : Nat) (written : Text) {items : List PlacedEdit}
    (hitems : ∀ item ∈ items, item.start ≤ second.length ∧ item.stop ≤ second.length)
    (hapart : items.Pairwise Apart)
    (h : before = [] ∨ items = [] ∨ splice second cursor written items ≠ []) :
    splice (first ++ second) (first.length + cursor) (before ++ written)
      (items.map (·.shift lines first.length)) = before ++ splice second cursor written items := by
  induction items generalizing cursor written with
  | nil =>
    rw [List.map_nil, splice, splice, List.drop_append, List.drop_eq_nil_of_le (by omega),
      Nat.add_sub_cancel_left, List.nil_append, List.append_assoc]
  | cons item rest ih =>
    obtain ⟨⟨-, hstop⟩, hrest⟩ := List.forall_mem_cons.1 hitems
    obtain ⟨hfirst, hpairs⟩ := List.pairwise_cons.1 hapart
    have h : before = [] ∨ splice second cursor written (item :: rest) ≠ [] := by
      simpa using h
    have hnext : (rest.map (·.shift lines first.length)).head?.map start =
        (rest.head?.map start).map (first.length + ·) := by
      cases rest <;> rfl
    have hreplacement : (item.shift lines first.length).edit.replacement = item.edit.replacement :=
      rfl
    have hstart : (item.shift lines first.length).start = first.length + item.start := rfl
    have hstop' : (item.shift lines first.length).stop = first.length + item.stop := rfl
    rw [splice] at h ⊢
    rw [List.map_cons, splice, hnext, hstart, hreplacement, Text.slice_append_right,
      List.append_assoc before written, List.append_assoc before,
      emptiesLine_append_right first second hbefore, hstop', List.length_append]
    generalize hwritten : written ++ second.slice cursor item.start ++ item.edit.replacement = w
      at h ⊢
    split
    · next hempties =>
      rw [if_pos hempties] at h
      by_cases hinside : item.stop < second.length
      · rw [if_pos hinside] at h ⊢
        rw [if_pos (Nat.add_lt_add_left hinside _), Nat.add_assoc]
        exact ih _ _ hrest hpairs (h.imp_right .inr)
      · rw [if_neg hinside] at h ⊢
        rw [if_neg (by omega)]
        -- an edit that empties the last line is the last: one that began at its end would fill it
        obtain rfl : rest = [] := by
          cases rest with
          | nil => rfl
          | cons next rest =>
            have hle := (hfirst next List.mem_cons_self).2
            have hle' := (List.forall_mem_cons.1 hrest).1.1
            have hnextStart : next.start = item.stop := by omega
            simp [emptiesLine, hnextStart] at hempties
        rw [List.map_nil, splice, splice,
          List.drop_eq_nil_of_le (by rw [List.length_append]; omega),
          List.drop_eq_nil_of_le (Nat.not_lt.1 hinside), List.append_nil, List.append_nil]
        by_cases hw : w = []
        · subst hw
          have hbefore : before = [] := by
            rcases h with h | h
            · exact h
            · refine absurd ?_ h
              rw [splice, List.drop_eq_nil_of_le (Nat.not_lt.1 hinside)]
              rfl
          rw [hbefore]
          rfl
        · exact Text.dropFinalFeed_append before hw
    · next hkeeps =>
      rw [if_neg hkeeps] at h
      exact ih _ _ hrest hpairs (h.imp_right .inr)

end PlacedEdit

/-! ## Accepting a text in parts -/

namespace Text

/-- The lines of the first text come before the seam. -/
theorem positionAt_line_le_iff {first : Text} (hfirst : first.endsLine) (second : Text) {o : Nat}
    (ho : o ≤ (first ++ second).length) :
    (positionAt (first ++ second) o).line ≤ first.count feed ↔ o < first.length := by
  constructor
  · intro h
    by_contra hge
    obtain ⟨n, rfl⟩ := Nat.exists_eq_add_of_le (Nat.not_lt.1 hge)
    rw [positionAt_append_right hfirst, Position.down_line, positionAt, walk_line] at h
    dsimp only at h
    omega
  · intro hlt
    obtain ⟨front, rfl⟩ := List.getLast?_eq_some_iff.1 (beq_iff_eq.1 hfirst)
    have hle : o ≤ front.length := by
      rw [List.length_append] at hlt
      exact Nat.le_of_lt_succ hlt
    have hfront : (positionAt (front ++ [feed] ++ second) front.length).line =
        1 + front.count feed := by
      rw [List.append_assoc, positionAt_append_left front _ (Nat.le_refl _), positionAt,
        List.take_length, walk_line]
    have hline := positionAt_line_le (front ++ [feed] ++ second) hle
    rw [List.count_append, List.count_singleton_self]
    omega

end Text

theorem exists_map_eq_of_forall {α β : Type} {f : α → β} {P : α → Prop} {items : List β}
    (h : ∀ item ∈ items, ∃ inner, P inner ∧ item = f inner) :
    ∃ inners : List α, (∀ inner ∈ inners, P inner) ∧ items = inners.map f := by
  induction items with
  | nil => exact ⟨[], by simp, rfl⟩
  | cons item rest ih =>
    obtain ⟨⟨inner, hinner, rfl⟩, hrest⟩ := List.forall_mem_cons.1 h
    obtain ⟨inners, hinners, rfl⟩ := ih hrest
    exact ⟨inner :: inners, List.forall_mem_cons.2 ⟨hinner, hinners⟩, rfl⟩

namespace PlacedEdit

theorem filter_append_filter_of_pairwise {α : Type} (p : α → Bool) {items : List α}
    (h : items.Pairwise fun first second ↦ p second → p first) :
    items.filter p ++ items.filter (!p ·) = items := by
  induction items with
  | nil => rfl
  | cons item rest ih =>
    obtain ⟨hitem, hrest⟩ := List.pairwise_cons.1 h
    cases hp : p item with
    | true => simp [hp, ih hrest]
    | false =>
      have hnone : rest.filter p = [] := by
        rw [List.filter_eq_nil_iff]
        intro later hlater hpl
        exact absurd (hitem later hlater hpl) (Bool.eq_false_iff.1 hp)
      have hih := ih hrest
      rw [hnone, List.nil_append] at hih
      simp [hp, hnone, hih]

variable {first second : Text}

/-- An edit past the seam is an edit of the second text, further down. -/
theorem Fits.exists_shift (hfirst : first.endsLine) {item : PlacedEdit}
    (h : item.Fits (first ++ second)) {edit : Edit}
    (hedit : item.edit = edit.down (first.count feed)) (hstart : first.length ≤ item.start) :
    ∃ inner : PlacedEdit, inner.Fits second ∧
      item = inner.shift (first.count feed) first.length := by
  have hforward := h.start_le_stop
  obtain ⟨m, hm⟩ := Nat.exists_eq_add_of_le hstart
  obtain ⟨n, hn⟩ := Nat.exists_eq_add_of_le (Nat.le_trans hstart hforward)
  refine ⟨⟨m, n, edit⟩, ⟨?_, ?_, ?_, ?_⟩, ?_⟩
  · dsimp only
    omega
  · have := h.stop_le
    rw [List.length_append] at this
    dsimp only
    omega
  · have hposition := h.start_position
    rw [hm, Text.positionAt_append_right hfirst, hedit] at hposition
    exact Position.down_injective hposition
  · have hposition := h.stop_position
    rw [hn, Text.positionAt_append_right hfirst, hedit] at hposition
    exact Position.down_injective hposition
  · cases item
    simp_all [shift]

/-- An edit before the seam is an edit of the first text. -/
theorem Fits.of_append_left {item : PlacedEdit} (h : item.Fits (first ++ second))
    (hstop : item.stop ≤ first.length) : item.Fits first := by
  have hstart := Nat.le_trans h.start_le_stop hstop
  refine ⟨h.start_le_stop, hstop, ?_, ?_⟩
  · rw [← h.start_position, Text.positionAt_append_left first second hstart]
  · rw [← h.stop_position, Text.positionAt_append_left first second hstop]

end PlacedEdit

namespace Edit

open PlacedEdit (Fits Apart shift splice)

variable {first second : Text}

def endsWithin (lines : Nat) (edit : Edit) : Bool :=
  edit.span.stop.line ≤ lines

theorem endsWithin_iff {lines : Nat} {edit : Edit} :
    edit.endsWithin lines ↔ edit.span.stop.line ≤ lines :=
  decide_eq_true_iff

section Sides

variable {lines : Nat} {near far : List Edit}
  (hnear : ∀ edit ∈ near, edit.span.stop.line ≤ lines)
  (hfar : ∀ edit ∈ far, 1 ≤ edit.span.start.line ∧ 1 ≤ edit.span.stop.line)

include hfar in
theorem endsWithin_down {edit : Edit} (h : edit ∈ far.map (·.down lines)) :
    edit.endsWithin lines = false := by
  obtain ⟨inner, hinner, rfl⟩ := List.mem_map.1 h
  have := (hfar inner hinner).2
  rw [← Bool.not_eq_true, endsWithin_iff]
  simp only [down, Position.down_line]
  omega

include hnear hfar in
theorem filter_endsWithin :
    (near ++ far.map (·.down lines)).filter (·.endsWithin lines) = near := by
  rw [List.filter_append, List.filter_eq_self.2 fun edit h ↦ endsWithin_iff.2 (hnear edit h),
    List.filter_eq_nil_iff.2 fun edit h ↦ Bool.eq_false_iff.1 (endsWithin_down hfar h),
    List.append_nil]

include hnear hfar in
theorem filter_not_endsWithin :
    (near ++ far.map (·.down lines)).filter (!·.endsWithin lines) = far.map (·.down lines) := by
  rw [List.filter_append, List.filter_eq_nil_iff.2, List.nil_append, List.filter_eq_self.2]
  · intro edit h
    rw [endsWithin_down hfar h]
    rfl
  · intro edit h
    simpa using endsWithin_iff.2 (hnear edit h)

end Sides

/-- Items whose edits come from the second text are items of that text, moved past the seam. -/
theorem exists_items_past (hfirst : first.endsLine) {far : List Edit} {items : List PlacedEdit}
    (hfar : ∀ edit ∈ far, 1 ≤ edit.span.start.line ∧ 1 ≤ edit.span.stop.line)
    (hfits : ∀ item ∈ items, item.Fits (first ++ second))
    (hpast : (items.map (·.edit)).Perm (far.map (·.down (first.count feed)))) :
    ∃ inner : List PlacedEdit, (∀ item ∈ inner, item.Fits second) ∧
      items = inner.map (·.shift (first.count feed) first.length) ∧
      (inner.map (·.edit)).Perm far := by
  obtain ⟨inner, hinner, rfl⟩ : ∃ inner : List PlacedEdit, (∀ item ∈ inner, item.Fits second) ∧
      items = inner.map (·.shift (first.count feed) first.length) := by
    apply exists_map_eq_of_forall
    intro item hitem
    obtain ⟨edit, hedit, hdown⟩ := List.mem_map.1
      (hpast.mem_iff.1 (List.mem_map.2 ⟨item, hitem, rfl⟩))
    apply (hfits item hitem).exists_shift hfirst hdown.symm
    rw [← Nat.not_lt, ← Text.positionAt_line_le_iff hfirst second (hfits item hitem).start_le,
      (hfits item hitem).start_position, ← hdown]
    have := (hfar edit hedit).1
    simp only [down, Position.down_line]
    omega
  refine ⟨inner, hinner, rfl, ?_⟩
  rw [List.map_map] at hpast
  rw [← List.map_perm_map_iff (down_injective (first.count feed)), List.map_map]
  exact hpast

/-- A batch with no edit over the seam is accepted on two texts put together only if it is accepted
on both, and the results are put together as the texts are. -/
theorem applyAll_append (hfirst : first.endsLine) {near far edits : List Edit}
    (hedits : edits.Perm (near ++ far.map (·.down (first.count feed))))
    (hnear : ∀ edit ∈ near, edit.span.stop.line ≤ first.count feed)
    (hfar : ∀ edit ∈ far, 1 ≤ edit.span.start.line ∧ 1 ≤ edit.span.stop.line) {result : Text}
    (h : applyAll (first ++ second) edits = .ok result) :
    ∃ left right, applyAll first near = .ok left ∧ applyAll second far = .ok right ∧
      left.endsEmpty ∧ (far = [] ∨ right ≠ [] → result = left ++ right) := by
  obtain ⟨items, hitems, rfl⟩ := (applyAll_eq_ok_iff _ _ _).1 h
  obtain ⟨hperm, hfits, hapart⟩ := (placeAll_eq_ok_iff _ _ _).1 hitems
  have hperm := hperm.trans hedits
  have hside : ∀ item ∈ items,
      item.edit.endsWithin (first.count feed) ↔ item.stop < first.length := by
    intro item hitem
    rw [← Text.positionAt_line_le_iff hfirst second (hfits item hitem).stop_le,
      (hfits item hitem).stop_position, endsWithin_iff]
  -- the items before the seam
  let outer := items.filter (·.edit.endsWithin (first.count feed))
  have houter : ∀ item ∈ outer, item.Fits first ∧ item.stop < first.length := by
    intro item hitem
    obtain ⟨hitem, hwithin⟩ := List.mem_filter.1 hitem
    have hstop := (hside item hitem).1 hwithin
    exact ⟨(hfits item hitem).of_append_left (Nat.le_of_lt hstop), hstop⟩
  have houterEdits : (outer.map (·.edit)).Perm near := by
    have := hperm.filter (·.endsWithin (first.count feed))
    rwa [List.filter_map, filter_endsWithin hnear hfar] at this
  -- the items past the seam
  have hpast : ((items.filter (!·.edit.endsWithin (first.count feed))).map (·.edit)).Perm
      (far.map (·.down (first.count feed))) := by
    have := hperm.filter (!·.endsWithin (first.count feed))
    rwa [List.filter_map, filter_not_endsWithin hnear hfar] at this
  obtain ⟨inner, hinner, hshift, hinnerEdits⟩ := exists_items_past hfirst hfar
    (fun item hitem ↦ hfits item (List.mem_filter.1 hitem).1) hpast
  have hinnerApart : inner.Pairwise Apart := by
    have := hapart.filter (!·.edit.endsWithin (first.count feed))
    rw [hshift, List.pairwise_map] at this
    exact this.imp PlacedEdit.shift_apart_iff.1
  have hitems : outer ++ inner.map (·.shift (first.count feed) first.length) = items := by
    rw [← hshift]
    apply PlacedEdit.filter_append_filter_of_pairwise
    refine hapart.imp_of_mem fun {a b} ha hb hab hwithin ↦ ?_
    rw [hside b hb] at hwithin
    rw [hside a ha]
    have := (hfits b hb).start_le_stop
    exact Nat.lt_of_le_of_lt (Nat.le_trans hab.2 this) hwithin
  have hends : (splice first 0 [] outer).endsEmpty := by
    apply PlacedEdit.splice_endsEmpty hfirst (Nat.zero_le _) (fun _ ↦ rfl)
    exact fun item hitem ↦ (houter item hitem).2
  refine ⟨splice first 0 [] outer, splice second 0 [] inner, ?_, ?_, hends, ?_⟩
  · apply applyAll_of_placed outer houterEdits _ (hapart.filter _)
    exact fun item hitem ↦ (houter item hitem).1
  · exact applyAll_of_placed inner hinnerEdits hinner hinnerApart
  · intro hnonempty
    rw [← hitems, PlacedEdit.splice_append_left first second (Nat.zero_le _) []
      (fun item hitem ↦ ⟨(houter item hitem).1.start_le_stop, (houter item hitem).2⟩)]
    · have := PlacedEdit.splice_append_right first second (first.count feed) hends 0 []
        (fun item hitem ↦ ⟨(hinner item hitem).start_le, (hinner item hitem).stop_le⟩) hinnerApart
        (.inr (hnonempty.imp_left fun hfar ↦ by
          rw [hfar, List.perm_nil, List.map_eq_nil_iff] at hinnerEdits
          exact hinnerEdits))
      rwa [Nat.add_zero, List.append_nil] at this
    · intro item hitem
      obtain ⟨item, -, rfl⟩ := List.mem_map.1 (List.mem_of_mem_head? hitem)
      exact Nat.le_add_right _ _

end Edit

end CellWeave
