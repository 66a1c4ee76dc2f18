import CellWeave.Proofs.Accepted
import CellWeave.Proofs.Seam
import Mathlib.Data.List.Induction
/-!
# A batch edit by edit

An edit moves what stands below it and nothing above. So a batch can also be made edit by edit from
the bottom of the text up: the spans still to be replaced keep their positions, though each edit is
placed in a text that those below it have changed already. It comes to the same as the batch made at
once, as long as no line is taken away with the feed above it.
-/

namespace CellWeave

namespace Edit

/-- Makes the edits one after the other, each in the text that came of the one before. -/
def applyInTurn (text : Text) (edits : List Edit) : Except EditError Text :=
  edits.foldlM (fun text edit ↦ applyAll text [edit]) text

end Edit

namespace PlacedEdit

/-- The text with its span replaced. -/
def made (text : Text) (item : PlacedEdit) : Text :=
  text.take item.start ++ (item.edit.replacement ++ text.drop item.stop)

variable {text : Text} {item last : PlacedEdit} {items front : List PlacedEdit}

theorem Fits.append_left {first : Text} (h : item.Fits first) (second : Text) :
    item.Fits (first ++ second) := by
  refine ⟨h.start_le_stop, ?_, ?_, ?_⟩
  · rw [List.length_append]
    exact Nat.le_add_right_of_le h.stop_le
  · rw [Text.positionAt_append_left first second h.start_le, h.start_position]
  · rw [Text.positionAt_append_left first second h.stop_le, h.stop_position]

/-- An edit further up is found where it was. -/
theorem Fits.made (h : item.Fits text) (hlast : last.start ≤ text.length)
    (hstop : item.stop ≤ last.start) : item.Fits (last.made text) := by
  rw [← List.take_append_drop last.start text] at h
  have hlength : item.stop ≤ (text.take last.start).length := by
    rwa [List.length_take, Nat.min_eq_left hlast]
  exact (h.of_append_left hlength).append_left _

theorem emptiesLine_of_keeps (hkeeps : item.edit.isMultiline → item.edit.replacement ≠ [])
    (text written : Text) (next : Option Nat) : emptiesLine text written item next = false := by
  cases hmultiline : item.edit.isMultiline with
  | false => simp [emptiesLine, hmultiline]
  | true => simp [emptiesLine, hkeeps hmultiline]

theorem splice_cons_of_keeps (hkeeps : item.edit.isMultiline → item.edit.replacement ≠ [])
    (text : Text) (cursor : Nat) (written : Text) (rest : List PlacedEdit) :
    splice text cursor written (item :: rest) =
      splice text item.stop (written ++ text.slice cursor item.start ++ item.edit.replacement)
        rest := by
  rw [splice, emptiesLine_of_keeps hkeeps]
  rfl

theorem splice_singleton (hkeeps : item.edit.isMultiline → item.edit.replacement ≠ [])
    (text : Text) : splice text 0 [] [item] = item.made text := by
  rw [splice_cons_of_keeps hkeeps, splice, made, List.nil_append, List.append_assoc, Text.slice,
    List.drop_zero, Nat.sub_zero]

/-- The edit furthest down can be made first. -/
theorem splice_concat (hlast : last.start ≤ text.length)
    (hkeeps : ∀ item ∈ front ++ [last], item.edit.isMultiline → item.edit.replacement ≠ [])
    (hfront : ∀ item ∈ front, item.start ≤ last.start ∧ item.stop ≤ last.start) {cursor : Nat}
    (hcursor : cursor ≤ last.start) (written : Text) :
    splice text cursor written (front ++ [last]) =
      splice (last.made text) cursor written front := by
  have hlength : (text.take last.start).length = last.start := by
    rw [List.length_take, Nat.min_eq_left hlast]
  induction front generalizing cursor written with
  | nil =>
    have hdrop : (last.made text).drop cursor =
        text.slice cursor last.start ++ (last.edit.replacement ++ text.drop last.stop) := by
      rw [made, List.drop_append_of_le_length (by rwa [hlength]), List.drop_take, Text.slice]
    rw [List.nil_append, splice_cons_of_keeps (hkeeps last (by simp)), splice, splice, hdrop]
    simp only [List.append_assoc]
  | cons item front ih =>
    obtain ⟨⟨hstart, hstop⟩, hfront⟩ := List.forall_mem_cons.1 hfront
    -- What is written for this edit comes from above the last one, where both texts are the same.
    have hslice : (last.made text).slice cursor item.start = text.slice cursor item.start := by
      have hle : item.start ≤ (text.take last.start).length := by rwa [hlength]
      rw [made, Text.slice_append_left _ _ hle,
        ← Text.slice_append_left _ (text.drop last.start) hle, List.take_append_drop]
    obtain ⟨hitem, hkeeps⟩ := List.forall_mem_cons.1 hkeeps
    rw [List.cons_append, splice_cons_of_keeps hitem, splice_cons_of_keeps hitem, hslice]
    exact ih hkeeps hfront hstop _

end PlacedEdit

namespace Edit

open PlacedEdit (Fits Apart splice)

variable {text : Text} {edits : List Edit} {items : List PlacedEdit}

theorem applyAll_singleton {item : PlacedEdit} (hfits : item.Fits text)
    (hkeeps : item.edit.isMultiline → item.edit.replacement ≠ []) :
    applyAll text [item.edit] = .ok (item.made text) := by
  rw [← PlacedEdit.splice_singleton hkeeps]
  exact applyAll_of_placed [item] (.refl _) (by simpa using hfits) (List.pairwise_singleton _ _)

/-- From the last edit to the first, each is found where the batch has it. -/
theorem applyInTurn_reverse (hfits : ∀ item ∈ items, item.Fits text)
    (hapart : items.Pairwise Apart)
    (hkeeps : ∀ item ∈ items, item.edit.isMultiline → item.edit.replacement ≠ []) :
    applyInTurn text (items.map (·.edit)).reverse = .ok (splice text 0 [] items) := by
  induction items using List.reverseRecOn generalizing text with
  | nil => simp [applyInTurn, splice, pure, Except.pure]
  | append_singleton front last ih =>
    obtain ⟨hfrontFits, hlastFits⟩ := List.forall_mem_append.1 hfits
    obtain ⟨hfrontKeeps, hlastKeeps⟩ := List.forall_mem_append.1 hkeeps
    obtain ⟨hfrontApart, -, hbefore⟩ := List.pairwise_append.1 hapart
    have hlastFits := hlastFits last List.mem_cons_self
    have hbefore (item : PlacedEdit) (hitem : item ∈ front) : item.Apart last :=
      hbefore item hitem last List.mem_cons_self
    calc applyInTurn text ((front ++ [last]).map (·.edit)).reverse
      _ = applyInTurn text (last.edit :: (front.map (·.edit)).reverse) := by
        rw [List.map_append, List.map_singleton, List.reverse_append, List.reverse_singleton,
          List.singleton_append]
      _ = applyInTurn (last.made text) (front.map (·.edit)).reverse := by
        rw [applyInTurn, List.foldlM_cons,
          applyAll_singleton hlastFits (hlastKeeps last List.mem_cons_self)]
        rfl
      _ = .ok (splice (last.made text) 0 [] front) := by
        apply ih _ hfrontApart hfrontKeeps
        exact fun item hitem ↦
          (hfrontFits item hitem).made hlastFits.start_le (hbefore item hitem).2
      _ = .ok (splice text 0 [] (front ++ [last])) := by
        rw [PlacedEdit.splice_concat hlastFits.start_le hkeeps _ (Nat.zero_le _)]
        exact fun item hitem ↦ ⟨Nat.le_of_lt (hbefore item hitem).1, (hbefore item hitem).2⟩

/-- If no edit deletes over several lines, an accepted batch can be made edit by edit from the
bottom up, and makes the same text. -/
theorem applyInTurn_of_descending {result : Text} (h : applyAll text edits = .ok result)
    (hkeeps : ∀ edit ∈ edits, edit.isMultiline → edit.replacement ≠ []) {order : List Edit}
    (horder : order.Perm edits)
    (hdescending : order.Pairwise fun first second ↦ second.span.start ≤ first.span.start) :
    applyInTurn text order = .ok result := by
  have hstarts : (order.map (·.span.start)).Nodup := by
    rw [(horder.map _).nodup_iff]
    exact List.pairwise_map.2 ((valid_of_applyAll h).2.imp fun hcompatible ↦ hcompatible.1)
  obtain ⟨items, hitems, rfl⟩ := (applyAll_eq_ok_iff _ _ _).1 h
  obtain ⟨hperm, hfits, hapart⟩ := (placeAll_eq_ok_iff _ _ _).1 hitems
  have hreverse : ((items.map (·.edit)).reverse).Pairwise
      fun first second ↦ second.span.start ≤ first.span.start := by
    rw [List.pairwise_reverse, List.pairwise_map]
    refine hapart.imp_of_mem fun {a b} ha hb hab ↦ ?_
    rw [← (hfits a ha).start_position, ← (hfits b hb).start_position,
      text.positionAt_le_iff (hfits a ha).start_le (hfits b hb).start_le]
    exact Nat.le_of_lt hab.1
  -- No two edits start at one place, so there is but one order that goes up.
  have hsame : order = (items.map (·.edit)).reverse := by
    have hboth := horder.trans (hperm.symm.trans (List.reverse_perm _).symm)
    refine hboth.eq_of_pairwise ?_ hdescending hreverse
    intro first second hfirst hsecond hle hge
    exact List.inj_on_of_nodup_map hstarts hfirst (hboth.mem_iff.2 hsecond)
      (Position.le_antisymm hge hle)
  rw [hsame]
  apply applyInTurn_reverse hfits hapart
  exact fun item hitem ↦ hkeeps item.edit (hperm.mem_iff.1 (List.mem_map.2 ⟨item, hitem, rfl⟩))

/-- One line split, and two lines made one on the line where the first edit ends. -/
def splitAndJoin : List Edit :=
  [⟨.of 1 1 1 2, ['x', feed, 'y']⟩, ⟨.of 1 2 2 1, ['z']⟩]

theorem applyInTurn_splitAndJoin :
    let text : Text := ['a', 'b', 'c', feed, 'd', 'e']
    applyAll text splitAndJoin = .ok ['a', 'x', feed, 'y', 'z', 'e'] ∧
      (∀ edit ∈ splitAndJoin, edit.isMultiline → edit.replacement ≠ []) ∧
      splitAndJoin.reverse.Perm splitAndJoin ∧
      (splitAndJoin.reverse.Pairwise fun first second ↦ second.span.start ≤ first.span.start) ∧
      applyInTurn text splitAndJoin.reverse = .ok ['a', 'x', feed, 'y', 'z', 'e'] := by
  have happly : applyAll ['a', 'b', 'c', feed, 'd', 'e'] splitAndJoin =
      .ok ['a', 'x', feed, 'y', 'z', 'e'] :=
    applyAll_of_placed [⟨1, 2, ⟨.of 1 1 1 2, ['x', feed, 'y']⟩⟩, ⟨2, 5, ⟨.of 1 2 2 1, ['z']⟩⟩]
      (by decide) (by decide) (by decide)
  have hkeeps : ∀ edit ∈ splitAndJoin, edit.isMultiline → edit.replacement ≠ [] := by decide
  have hperm := splitAndJoin.reverse_perm
  have hdescending : splitAndJoin.reverse.Pairwise
      fun first second ↦ second.span.start ≤ first.span.start := by
    decide
  exact ⟨happly, hkeeps, hperm, hdescending,
    applyInTurn_of_descending happly hkeeps hperm hdescending⟩

end Edit

end CellWeave
