import CellWeave.Edit
import CellWeave.Proofs.Offset
import Mathlib.Data.List.Forall2
import Mathlib.Data.List.Nodup
import Mathlib.Data.List.Perm.Basic
/-!
# Batches in sorted form

A batch is accepted exactly if its edits can be listed from left to right so that each begins after
the one before it begins and no earlier than that one ends. The list is unique, so the order in
which a batch names its edits is of no account. An accepted batch on two texts put together, the
first of them made of whole lines and no edit reaching over the seam, is one batch on each.
-/

namespace CellWeave

open List (Forall₂)

theorem bind_eq_ok_iff {ε α β : Type} {first : Except ε α} {next : α → Except ε β} {result : β} :
    first >>= next = .ok result ↔ ∃ value, first = .ok value ∧ next value = .ok result := by
  cases first <;> simp [bind, Except.bind]

/-- All results are there, each from its own item. -/
theorem mapM_eq_ok_iff {ε α β : Type} (f : α → Except ε β) (xs : List α) (ys : List β) :
    xs.mapM f = .ok ys ↔ Forall₂ (fun x y ↦ f x = .ok y) xs ys := by
  induction xs generalizing ys with
  | nil => cases ys <;> simp [pure, Except.pure]
  | cons x xs ih =>
    rw [List.mapM_cons]
    cases hx : f x with
    | error e => cases ys <;> simp [bind, Except.bind, hx]
    | ok y =>
      cases hxs : xs.mapM f with
      | error e => cases ys <;> simp [bind, Except.bind, hx, ← ih, hxs]
      | ok rest => cases ys <;> simp [bind, Except.bind, pure, Except.pure, hx, ← ih, hxs]

/-- The first item that fails gives the error. -/
theorem mapM_eq_error_iff {ε α β : Type} (f : α → Except ε β) (xs : List α) (error : ε) :
    xs.mapM f = .error error ↔ ∃ front x back, xs = front ++ x :: back ∧
      (∀ other ∈ front, ∃ y, f other = .ok y) ∧ f x = .error error := by
  induction xs with
  | nil => simp [pure, Except.pure]
  | cons x xs ih =>
    rw [List.mapM_cons]
    simp only [List.cons_eq_append_iff]
    cases hx : f x with
    | error e =>
      simp only [bind, Except.bind, Except.error.injEq]
      constructor
      · rintro rfl
        exact ⟨[], x, xs, .inl ⟨rfl, rfl⟩, nofun, hx⟩
      · rintro ⟨front, y, back, ⟨rfl, h⟩ | ⟨rest, rfl, -⟩, hfront, hy⟩
        · obtain ⟨rfl, -⟩ := List.cons.inj h
          exact Except.error.inj (hx.symm.trans hy)
        · obtain ⟨y, hy⟩ := hfront x List.mem_cons_self
          exact absurd (hx.symm.trans hy) nofun
    | ok y =>
      have hrest : (do let ys ← xs.mapM f; pure (y :: ys)) = .error error ↔
          xs.mapM f = .error error := by
        cases xs.mapM f <;> simp [bind, Except.bind, pure, Except.pure]
      simp only [bind, Except.bind] at hrest ⊢
      rw [hrest, ih]
      constructor
      · rintro ⟨front, z, back, rfl, hfront, hz⟩
        refine ⟨x :: front, z, back, .inr ⟨front, rfl, rfl⟩, ?_, hz⟩
        exact List.forall_mem_cons.2 ⟨⟨y, hx⟩, hfront⟩
      · rintro ⟨front, z, back, ⟨rfl, h⟩ | ⟨rest, rfl, rfl⟩, hfront, hz⟩
        · obtain ⟨rfl, -⟩ := List.cons.inj h
          exact absurd (hx.symm.trans hz) nofun
        · exact ⟨rest, z, back, rfl, (List.forall_mem_cons.1 hfront).2, hz⟩

/-! ## Edits and their offsets -/

namespace PlacedEdit

/-- The offsets of an edit are those of its span in a text. -/
structure Fits (text : Text) (item : PlacedEdit) : Prop where
  start_le_stop : item.start ≤ item.stop
  stop_le : item.stop ≤ text.length
  start_position : text.positionAt item.start = item.edit.span.start
  stop_position : text.positionAt item.stop = item.edit.span.stop

/-- One edit is wholly before another, and they do not begin at one place. -/
def Apart (first second : PlacedEdit) : Prop :=
  first.start < second.start ∧ first.stop ≤ second.start

instance (text : Text) (item : PlacedEdit) : Decidable (item.Fits text) :=
  decidable_of_iff (item.start ≤ item.stop ∧ item.stop ≤ text.length ∧
      text.positionAt item.start = item.edit.span.start ∧
      text.positionAt item.stop = item.edit.span.stop)
    ⟨fun ⟨hforward, hstop, hstartAt, hstopAt⟩ ↦ ⟨hforward, hstop, hstartAt, hstopAt⟩,
      fun h ↦ ⟨h.start_le_stop, h.stop_le, h.start_position, h.stop_position⟩⟩

instance (first second : PlacedEdit) : Decidable (first.Apart second) :=
  inferInstanceAs (Decidable (_ ∧ _))

theorem Fits.start_le {text : Text} {item : PlacedEdit} (h : item.Fits text) :
    item.start ≤ text.length :=
  Nat.le_trans h.start_le_stop h.stop_le

end PlacedEdit

namespace Edit

open PlacedEdit (Fits Apart)

theorem locate_eq_ok_iff (text : Text) (side : Side) (p : Position) (o : Nat) :
    locate text side p = .ok o ↔ o ≤ text.length ∧ text.positionAt o = p := by
  rw [← Text.offset_eq_ok_iff, locate]
  cases text.offset p <;> simp

theorem place_eq_ok_iff (text : Text) (edit : Edit) (item : PlacedEdit) :
    place text edit = .ok item ↔ item.edit = edit ∧ item.Fits text := by
  unfold place
  split
  · next hreversed =>
    refine iff_of_false nofun ?_
    rintro ⟨rfl, hfits⟩
    rw [← hfits.start_position, ← hfits.stop_position,
      text.positionAt_lt_iff hfits.stop_le hfits.start_le] at hreversed
    exact Nat.not_lt.2 hfits.start_le_stop hreversed
  · next hforward =>
    constructor
    · intro h
      cases hstart : locate text .start edit.span.start with
      | error e => simp [hstart, bind, Except.bind] at h
      | ok start =>
        cases hstop : locate text .stop edit.span.stop with
        | error e => simp [hstart, hstop, bind, Except.bind] at h
        | ok stop =>
          obtain rfl : ⟨start, stop, edit⟩ = item := by
            simpa [hstart, hstop, bind, Except.bind, pure, Except.pure] using h
          obtain ⟨hstartLe, hstartAt⟩ := (locate_eq_ok_iff text .start _ _).1 hstart
          obtain ⟨hstopLe, hstopAt⟩ := (locate_eq_ok_iff text .stop _ _).1 hstop
          refine ⟨rfl, ?_, hstopLe, hstartAt, hstopAt⟩
          rw [← hstartAt, ← hstopAt, text.positionAt_lt_iff hstopLe hstartLe] at hforward
          exact Nat.not_lt.1 hforward
    · rintro ⟨rfl, hfits⟩
      have hstart := (locate_eq_ok_iff text .start _ _).2 ⟨hfits.start_le, hfits.start_position⟩
      have hstop := (locate_eq_ok_iff text .stop _ _).2 ⟨hfits.stop_le, hfits.stop_position⟩
      rw [hstart, hstop]
      rfl

end Edit

namespace PlacedEdit

theorem precedes_iff {first second : PlacedEdit} : first.precedes second ↔
    first.start < second.start ∨ first.start = second.start ∧ first.stop ≤ second.stop := by
  simp [precedes]

theorem precedes_trans (a b c : PlacedEdit) (hab : a.precedes b) (hbc : b.precedes c) :
    a.precedes c := by
  rw [precedes_iff] at *
  omega

theorem precedes_total (a b : PlacedEdit) : a.precedes b || b.precedes a := by
  rw [Bool.or_eq_true, precedes_iff, precedes_iff]
  omega

theorem Apart.precedes {first second : PlacedEdit} (h : first.Apart second) :
    first.precedes second :=
  precedes_iff.2 (.inl h.1)

/-- In a sorted batch it is enough to compare neighbours. -/
theorem firstClash?_eq_none_iff {items : List PlacedEdit} (hsorted : items.Pairwise (precedes · ·))
    (hforward : ∀ item ∈ items, item.start ≤ item.stop) :
    firstClash? items = none ↔ items.Pairwise Apart := by
  induction items with
  | nil => simp [firstClash?]
  | cons first rest ih =>
    cases rest with
    | nil => simp [firstClash?]
    | cons second rest =>
      obtain ⟨hfirst, hrest⟩ := List.pairwise_cons.1 hsorted
      have hprecedes := precedes_iff.1 (hfirst second List.mem_cons_self)
      have hih := ih hrest fun item hitem ↦ hforward item (List.mem_cons_of_mem _ hitem)
      have hneighbours : clashes first second = false ↔ first.Apart second := by
        have := hforward second (List.mem_cons_of_mem _ List.mem_cons_self)
        simp only [clashes, Bool.or_eq_false_iff, decide_eq_false_iff_not, beq_eq_false_iff_ne,
          Apart]
        omega
      constructor
      · intro h
        unfold firstClash? at h
        split at h
        · simp at h
        · next hclash =>
          have hapart := hneighbours.1 (Bool.eq_false_iff.2 hclash)
          have hpairs := hih.1 h
          refine List.pairwise_cons.2 ⟨fun item hitem ↦ ?_, hpairs⟩
          rcases List.mem_cons.1 hitem with rfl | hitem
          · exact hapart
          · have hlater := (List.pairwise_cons.1 hpairs).1 item hitem
            exact ⟨Nat.lt_trans hapart.1 hlater.1, Nat.le_trans hapart.2 (Nat.le_of_lt hlater.1)⟩
      · intro h
        obtain ⟨hall, hpairs⟩ := List.pairwise_cons.1 h
        rw [firstClash?, hneighbours.2 (hall second List.mem_cons_self)]
        exact hih.2 hpairs

end PlacedEdit

namespace Edit

open PlacedEdit (Fits Apart)

theorem mapM_place_eq_ok_iff (text : Text) (edits : List Edit) (placed : List PlacedEdit) :
    edits.mapM (place text) = .ok placed ↔
      placed.map (·.edit) = edits ∧ ∀ item ∈ placed, item.Fits text := by
  rw [mapM_eq_ok_iff]
  induction edits generalizing placed with
  | nil =>
    rw [List.forall₂_nil_left_iff, List.map_eq_nil_iff]
    exact ⟨fun h ↦ ⟨h, by simp [h]⟩, fun h ↦ h.1⟩
  | cons edit edits ih =>
    cases placed with
    | nil => simp
    | cons item placed =>
      rw [List.forall₂_cons, place_eq_ok_iff, ih, List.map_cons, List.cons.injEq,
        List.forall_mem_cons]
      exact and_and_and_comm

/-- A batch is accepted exactly if its edits, from left to right, are apart. -/
theorem placeAll_eq_ok_iff (text : Text) (edits : List Edit) (items : List PlacedEdit) :
    placeAll text edits = .ok items ↔
      (items.map (·.edit)).Perm edits ∧ (∀ item ∈ items, item.Fits text) ∧
        items.Pairwise Apart := by
  have hsorted (placed : List PlacedEdit) :
      (placed.mergeSort PlacedEdit.precedes).Pairwise (PlacedEdit.precedes · ·) :=
    List.pairwise_mergeSort PlacedEdit.precedes_trans PlacedEdit.precedes_total placed
  have hperm (placed : List PlacedEdit) : (placed.mergeSort PlacedEdit.precedes).Perm placed :=
    List.mergeSort_perm placed _
  constructor
  · intro h
    cases hplaced : edits.mapM (place text) with
    | error e => simp [placeAll, hplaced, bind, Except.bind] at h
    | ok placed =>
      obtain ⟨rfl, hfits⟩ := (mapM_place_eq_ok_iff _ _ _).1 hplaced
      have hsortedFits : ∀ item ∈ placed.mergeSort PlacedEdit.precedes, item.Fits text :=
        fun item hitem ↦ hfits item ((hperm placed).mem_iff.1 hitem)
      cases hclash : PlacedEdit.firstClash? (placed.mergeSort PlacedEdit.precedes) with
      | some pair => simp [placeAll, hplaced, hclash, bind, Except.bind] at h
      | none =>
        obtain rfl : placed.mergeSort PlacedEdit.precedes = items := by
          simpa [placeAll, hplaced, hclash, bind, Except.bind] using h
        refine ⟨(hperm placed).map _, hsortedFits, ?_⟩
        rwa [PlacedEdit.firstClash?_eq_none_iff (hsorted placed)
          fun item hitem ↦ (hsortedFits item hitem).start_le_stop] at hclash
  · rintro ⟨hedits, hfits, hapart⟩
    have hpairs := (mapM_eq_ok_iff _ _ _).1 ((mapM_place_eq_ok_iff text _ items).2 ⟨rfl, hfits⟩)
    obtain ⟨placed, hplaced, hitems⟩ := List.perm_comp_forall₂ hedits.symm hpairs
    have hstarts : (items.map (·.start)).Nodup :=
      List.pairwise_map.2 (hapart.imp fun h ↦ Nat.ne_of_lt h.1)
    have hsame : placed.mergeSort PlacedEdit.precedes = items := by
      refine List.Perm.eq_of_pairwise ?_ (hsorted placed) (hapart.imp PlacedEdit.Apart.precedes)
        ((hperm placed).trans hitems)
      intro first second hfirst hsecond hle hge
      have hfirst : first ∈ items := ((hperm placed).trans hitems).mem_iff.1 hfirst
      rw [PlacedEdit.precedes_iff] at hle hge
      exact List.inj_on_of_nodup_map hstarts hfirst hsecond (by omega)
    have hclash : PlacedEdit.firstClash? items = none :=
      (PlacedEdit.firstClash?_eq_none_iff (hapart.imp PlacedEdit.Apart.precedes)
        fun item hitem ↦ (hfits item hitem).start_le_stop).2 hapart
    simp [placeAll, (mapM_eq_ok_iff _ _ _).2 hplaced, hsame, hclash, bind, Except.bind]

/-- A batch is accepted if its edits can be placed, and its result is spliced from them. -/
theorem applyAll_eq_ok_iff (text : Text) (edits : List Edit) (result : Text) :
    applyAll text edits = .ok result ↔
      ∃ items, placeAll text edits = .ok items ∧ PlacedEdit.splice text 0 [] items = result := by
  unfold applyAll
  cases placeAll text edits <;> simp [bind, Except.bind, pure, Except.pure]

/-- A batch makes the text that its edits make when they are listed from left to right. -/
theorem applyAll_of_placed {text : Text} {edits : List Edit} (items : List PlacedEdit)
    (hedits : (items.map (·.edit)).Perm edits) (hfits : ∀ item ∈ items, item.Fits text)
    (hapart : items.Pairwise Apart) :
    applyAll text edits = .ok (PlacedEdit.splice text 0 [] items) :=
  (applyAll_eq_ok_iff _ _ _).2
    ⟨items, (placeAll_eq_ok_iff _ _ _).2 ⟨hedits, hfits, hapart⟩, rfl⟩

/-- An accepted batch is accepted in every order, and makes the same text. -/
theorem applyAll_of_perm {text : Text} {edits others : List Edit} (h : edits.Perm others)
    {result : Text} (hresult : applyAll text edits = .ok result) :
    applyAll text others = .ok result := by
  obtain ⟨items, hitems, rfl⟩ := (applyAll_eq_ok_iff _ _ _).1 hresult
  obtain ⟨hedits, hfits, hapart⟩ := (placeAll_eq_ok_iff _ _ _).1 hitems
  exact applyAll_of_placed items (hedits.trans h) hfits hapart

end Edit

end CellWeave
