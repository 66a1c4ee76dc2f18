import CellWeave.Proofs.Seam
import Mathlib.Data.Nat.Init
/-!
# Every span replaced

A batch names spans of one text, and what is to stand in their place. Replacing every span leaves no
line out, so what comes of the text can be said character by character: each is kept unless a span
covers it, and where a span begins its replacement is written first.
-/

namespace CellWeave

namespace Text

theorem slice_self (text : Text) (start : Nat) : text.slice start start = [] := by
  rw [slice, Nat.sub_self, List.take_zero]

theorem slice_succ (text : Text) {start stop : Nat} (h : start ≤ stop) :
    text.slice start (stop + 1) = text.slice start stop ++ text[stop]?.toList := by
  have hone : text.slice stop (stop + 1) = text[stop]?.toList := by
    rw [slice, Nat.add_sub_cancel_left, List.take_one, List.head?_drop]
  rw [← slice_append_slice text h (Nat.le_add_right stop 1), hone]

end Text

namespace Edit

open PlacedEdit (Fits Apart)

/-- What is written at a position, in place of a span that begins there. -/
def writtenAt (edits : List Edit) (position : Position) : Text :=
  (edits.filter (·.span.start = position)).flatMap (·.replacement)

/-- The character at the position is in one of the spans. -/
def covers (edits : List Edit) (position : Position) : Bool :=
  edits.any fun edit ↦ edit.span.start ≤ position ∧ position < edit.span.stop

/-- What is written at an offset, and the character there unless it is taken away. -/
def piece (text : Text) (edits : List Edit) (offset : Nat) : Text :=
  writtenAt edits (text.positionAt offset) ++
    if covers edits (text.positionAt offset) then [] else text[offset]?.toList

/-- What comes of the text before an offset. -/
def replacedTo (text : Text) (edits : List Edit) (offset : Nat) : Text :=
  (List.range offset).flatMap (piece text edits)

/-- The text with every span replaced, all of them spans of the text as it was. -/
def replaced (text : Text) (edits : List Edit) : Text :=
  replacedTo text edits (text.length + 1)

theorem replacedTo_succ (text : Text) (edits : List Edit) (offset : Nat) :
    replacedTo text edits (offset + 1) =
      replacedTo text edits offset ++ piece text edits offset := by
  rw [replacedTo, List.range_succ, List.flatMap_append, List.flatMap_singleton, replacedTo]

/-! ## Accepted batches -/

section Accepted

variable {text : Text} {edits : List Edit} {items : List PlacedEdit} {item : PlacedEdit}
  {offset : Nat}

theorem mem_iff_of_placeAll (h : placeAll text edits = .ok items) {edit : Edit} :
    edit ∈ edits ↔ ∃ item ∈ items, item.edit = edit := by
  obtain ⟨hperm, -, -⟩ := (placeAll_eq_ok_iff _ _ _).1 h
  rw [← hperm.mem_iff, List.mem_map]

/-- Edits of an accepted batch begin at different places. -/
theorem apart_of_mem (h : placeAll text edits = .ok items) {other : PlacedEdit}
    (hitem : item ∈ items) (hother : other ∈ items) :
    other = item ∨ other.Apart item ∨ item.Apart other := by
  obtain ⟨-, -, hapart⟩ := (placeAll_eq_ok_iff _ _ _).1 h
  obtain ⟨before, after, rfl⟩ := List.append_of_mem hitem
  obtain ⟨-, hafter, hbefore⟩ := List.pairwise_append.1 hapart
  rcases List.mem_append.1 hother with hother | hother
  · exact .inr (.inl (hbefore other hother item List.mem_cons_self))
  · rcases List.mem_cons.1 hother with heq | hother
    · exact .inl heq
    · exact .inr (.inr ((List.pairwise_cons.1 hafter).1 other hother))

theorem writtenAt_eq_nil (h : placeAll text edits = .ok items) (hoffset : offset ≤ text.length)
    (hne : ∀ item ∈ items, item.start ≠ offset) :
    writtenAt edits (text.positionAt offset) = [] := by
  obtain ⟨-, hfits, -⟩ := (placeAll_eq_ok_iff _ _ _).1 h
  have hnone : edits.filter (·.span.start = text.positionAt offset) = [] := by
    rw [List.filter_eq_nil_iff]
    intro edit hedit
    obtain ⟨item, hitem, rfl⟩ := (mem_iff_of_placeAll h).1 hedit
    rw [decide_eq_true_eq, ← (hfits item hitem).start_position,
      text.positionAt_inj (hfits item hitem).start_le hoffset]
    exact hne item hitem
  rw [writtenAt, hnone, List.flatMap_nil]

theorem writtenAt_start (h : placeAll text edits = .ok items) (hitem : item ∈ items) :
    writtenAt edits (text.positionAt item.start) = item.edit.replacement := by
  obtain ⟨hperm, hfits, hapart⟩ := (placeAll_eq_ok_iff _ _ _).1 h
  have hone : items.filter (·.start = item.start) = [item] := by
    obtain ⟨before, after, rfl⟩ := List.append_of_mem hitem
    obtain ⟨-, hafter, hbefore⟩ := List.pairwise_append.1 hapart
    have hbefore : before.filter (·.start = item.start) = [] := by
      rw [List.filter_eq_nil_iff]
      intro other hother
      have hlt := (hbefore other hother item List.mem_cons_self).1
      simpa using Nat.ne_of_lt hlt
    have hafter : after.filter (·.start = item.start) = [] := by
      rw [List.filter_eq_nil_iff]
      intro other hother
      have hlt := ((List.pairwise_cons.1 hafter).1 other hother).1
      simpa using Nat.ne_of_gt hlt
    rw [List.filter_append, hbefore, List.nil_append, List.filter_cons_of_pos (by simp), hafter]
  have hstarts : (items.map (·.edit)).filter (·.span.start = text.positionAt item.start) =
      [item.edit] := by
    have hsame : items.filter (fun other ↦ other.edit.span.start = text.positionAt item.start) =
        items.filter (·.start = item.start) := by
      apply List.filter_congr
      intro other hother
      simp only [← (hfits other hother).start_position,
        text.positionAt_inj (hfits other hother).start_le (hfits item hitem).start_le]
    rw [List.filter_map, Function.comp_def, hsame, hone, List.map_singleton]
  have hedits := hperm.symm.filter (·.span.start = text.positionAt item.start)
  rw [hstarts, List.perm_singleton] at hedits
  rw [writtenAt, hedits, List.flatMap_singleton]

theorem covers_iff (h : placeAll text edits = .ok items) (hoffset : offset ≤ text.length) :
    covers edits (text.positionAt offset) ↔
      ∃ item ∈ items, item.start ≤ offset ∧ offset < item.stop := by
  obtain ⟨-, hfits, -⟩ := (placeAll_eq_ok_iff _ _ _).1 h
  have hspan (item : PlacedEdit) (hitem : item ∈ items) :
      (item.edit.span.start ≤ text.positionAt offset ∧
        text.positionAt offset < item.edit.span.stop) ↔
          item.start ≤ offset ∧ offset < item.stop := by
    rw [← (hfits item hitem).start_position, ← (hfits item hitem).stop_position,
      text.positionAt_le_iff (hfits item hitem).start_le hoffset,
      text.positionAt_lt_iff hoffset (hfits item hitem).stop_le]
  simp only [covers, List.any_eq_true, decide_eq_true_eq]
  constructor
  · rintro ⟨edit, hedit, hcovers⟩
    obtain ⟨item, hitem, rfl⟩ := (mem_iff_of_placeAll h).1 hedit
    exact ⟨item, hitem, (hspan item hitem).1 hcovers⟩
  · rintro ⟨item, hitem, hcovers⟩
    exact ⟨item.edit, (mem_iff_of_placeAll h).2 ⟨item, hitem, rfl⟩, (hspan item hitem).2 hcovers⟩

/-! ## Piece by piece -/

/-- Between two spans a text stays as it is. -/
theorem piece_between (h : placeAll text edits = .ok items) (hoffset : offset ≤ text.length)
    (hbetween : ∀ item ∈ items, item.start < offset ∧ item.stop ≤ offset ∨ offset < item.start) :
    piece text edits offset = text[offset]?.toList := by
  have hwritten : writtenAt edits (text.positionAt offset) = [] := by
    apply writtenAt_eq_nil h hoffset
    intro item hitem
    have := hbetween item hitem
    omega
  have hcovers : ¬ covers edits (text.positionAt offset) := by
    rw [covers_iff h hoffset]
    rintro ⟨item, hitem, hcovers⟩
    have := hbetween item hitem
    omega
  rw [piece, hwritten, if_neg hcovers, List.nil_append]

/-- From the start of a span up to the next one: its replacement, and the text from its end on. -/
theorem piece_after (h : placeAll text edits = .ok items) (hitem : item ∈ items)
    (hstart : item.start ≤ offset) (hoffset : offset ≤ text.length)
    (hnext : ∀ other ∈ items, other.start ≤ item.start ∨ offset < other.start) :
    piece text edits offset = (if offset = item.start then item.edit.replacement else []) ++
      if offset < item.stop then [] else text[offset]?.toList := by
  have hbefore : ∀ other ∈ items, other = item ∨ other.Apart item ∨ offset < other.start := by
    intro other hother
    rcases apart_of_mem h hitem hother with heq | hapart | hapart
    · exact .inl heq
    · exact .inr (.inl hapart)
    · have := hnext other hother
      have := hapart.1
      exact .inr (.inr (by omega))
  have hwritten : writtenAt edits (text.positionAt offset) =
      if offset = item.start then item.edit.replacement else [] := by
    split
    · next heq =>
      rw [heq]
      exact writtenAt_start h hitem
    · apply writtenAt_eq_nil h hoffset
      intro other hother
      rcases hbefore other hother with rfl | ⟨hlt, -⟩ | hlt <;> omega
  have hcovers : covers edits (text.positionAt offset) ↔ offset < item.stop := by
    rw [covers_iff h hoffset]
    constructor
    · rintro ⟨other, hother, hle, hlt⟩
      rcases hbefore other hother with rfl | ⟨-, hstop⟩ | hgt <;> omega
    · exact fun hlt ↦ ⟨item, hitem, hstart, hlt⟩
  rw [piece, hwritten]
  simp only [hcovers]

/-! ## Stretches -/

theorem replacedTo_between (h : placeAll text edits = .ok items) {first last : Nat}
    (hle : first ≤ last) (hlast : last ≤ text.length + 1)
    (hbetween : ∀ item ∈ items, item.start < first ∧ item.stop ≤ first ∨ last ≤ item.start) :
    replacedTo text edits last = replacedTo text edits first ++ text.slice first last := by
  induction last, hle using Nat.le_induction with
  | base => rw [text.slice_self, List.append_nil]
  | succ last hle ih =>
    have hrest : ∀ item ∈ items, item.start < first ∧ item.stop ≤ first ∨ last < item.start :=
      hbetween
    have hpiece : piece text edits last = text[last]?.toList := by
      apply piece_between h (Nat.le_of_succ_le_succ hlast)
      intro item hitem
      have := hrest item hitem
      omega
    have ih := ih (Nat.le_of_succ_le hlast) fun item hitem ↦ by
      have := hrest item hitem
      omega
    rw [replacedTo_succ, ih, hpiece, List.append_assoc, ← text.slice_succ hle]

theorem replacedTo_after (h : placeAll text edits = .ok items) (hitem : item ∈ items) {last : Nat}
    (hstart : item.start < last) (hlast : last ≤ text.length + 1)
    (hnext : ∀ other ∈ items, other.start ≤ item.start ∨ last ≤ other.start) :
    replacedTo text edits last =
      replacedTo text edits item.start ++ item.edit.replacement ++ text.slice item.stop last := by
  obtain ⟨-, hfits, -⟩ := (placeAll_eq_ok_iff _ _ _).1 h
  have hstartStop := (hfits item hitem).start_le_stop
  induction last, hstart using Nat.le_induction with
  | base =>
    have hpiece := piece_after h hitem (Nat.le_refl _) (hfits item hitem).start_le hnext
    rw [replacedTo_succ, hpiece, if_pos rfl, List.append_assoc]
    split
    · next hlt => rw [Text.slice, Nat.sub_eq_zero_of_le hlt, List.take_zero]
    · next hge =>
      obtain heq : item.stop = item.start := by omega
      rw [heq, text.slice_succ (Nat.le_refl _), text.slice_self, List.nil_append]
  | succ last hle ih =>
    have hpiece := piece_after h hitem (Nat.le_of_succ_le hle) (Nat.le_of_succ_le_succ hlast) hnext
    have ih := ih (Nat.le_of_succ_le hlast) fun other hother ↦
      (hnext other hother).imp_right Nat.le_of_succ_le
    rw [replacedTo_succ, ih, hpiece, if_neg (Nat.ne_of_gt hle), List.nil_append]
    split
    · next hlt =>
      rw [Text.slice, Text.slice, Nat.sub_eq_zero_of_le hlt,
        Nat.sub_eq_zero_of_le (Nat.le_of_lt hlt), List.append_nil]
    · next hge => rw [text.slice_succ (Nat.le_of_not_lt hge), List.append_assoc _ (text.slice _ _)]

end Accepted

end Edit

end CellWeave
