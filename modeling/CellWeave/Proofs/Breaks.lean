import CellWeave.Settings
import Mathlib.Data.List.Basic
/-!
# Line breaks of a raw delimiter

A delimiter may be given with a feed or with a backslash and an `n` where its line ends. The raw
text makes a delimiter if it has one such break, in either spelling and at its end; what stands
before the break is then the line.
-/

namespace CellWeave

namespace Text

/-- The text has a line break, with this before it and this after it. -/
def BreakAt (text before after : Text) : Prop :=
  text = before ++ feed :: after ∨ text = before ++ .char '\\' :: .char 'n' :: after

/-- The text has one line break, at its end. -/
def EndsOnce (text body : Text) : Prop :=
  ∀ before after, text.BreakAt before after ↔ before = body ∧ after = []

variable {text body before after : Text}

theorem BreakAt.append (h : text.BreakAt before after) (rest : Text) :
    BreakAt (text ++ rest) before (after ++ rest) := by
  rcases h with rfl | rfl
  · exact .inl (by simp)
  · exact .inr (by simp)

theorem BreakAt.cons (h : text.BreakAt before after) (point : CodePoint) :
    BreakAt (point :: text) (point :: before) after := by
  rcases h with rfl | rfl
  · exact .inl rfl
  · exact .inr rfl

/-- The last code point tells how a break at the end is spelled. -/
theorem BreakAt.inj_of_end (h : text.BreakAt before []) (h' : text.BreakAt body []) :
    before = body := by
  rcases h with rfl | rfl <;> rcases h' with h' | h'
  · exact (List.append_left_inj _).1 h'
  · simpa using congrArg List.getLast? h'
  · simpa using congrArg List.getLast? h'
  · exact (List.append_left_inj _).1 h'

end Text

namespace Settings

open Text

/-! ## Feeds that are written out -/

theorem unescapeFeeds_cons {point : CodePoint} {rest : Text}
    (h : point = .char '\\' → rest.head? ≠ some (.char 'n')) :
    unescapeFeeds (point :: rest) = point :: unescapeFeeds rest := by
  rw [unescapeFeeds]
  rintro after rfl rfl
  exact h rfl rfl

/-- No break lies across the end of a text if what comes after it begins with something else than
an `n`. -/
theorem unescapeFeeds_append (before : Text) {point : CodePoint} (hpoint : point ≠ .char 'n')
    (after : Text) : unescapeFeeds (before ++ point :: after) =
      unescapeFeeds before ++ unescapeFeeds (point :: after) := by
  fun_induction unescapeFeeds before with
  | case1 => rfl
  | case2 rest ih => simpa [unescapeFeeds] using ih
  | case3 first rest hfirst ih =>
    rw [List.cons_append, unescapeFeeds_cons, ih, List.cons_append]
    rintro rfl hhead
    cases rest with
    | nil => exact hpoint (Option.some.inj hhead)
    | cons second rest =>
      obtain rfl : second = .char 'n' := Option.some.inj hhead
      exact hfirst rest rfl rfl

/-- Breaks of the raw text turn into feeds, in their places. -/
theorem unescapeFeeds_of_breakAt {text before after : Text} (h : text.BreakAt before after) :
    unescapeFeeds text = unescapeFeeds before ++ feed :: unescapeFeeds after := by
  rcases h with rfl | rfl
  · have hfeed : CodePoint.char '\n' ≠ .char '\\' := by decide
    rw [unescapeFeeds_append before (by decide), unescapeFeeds_cons (absurd · hfeed)]
  · rw [unescapeFeeds_append before (by decide), unescapeFeeds]

/-- Every feed comes from a break. -/
theorem exists_breakAt_of_unescapeFeeds {text before after : Text}
    (h : unescapeFeeds text = before ++ feed :: after) :
    ∃ rawBefore rawAfter, text.BreakAt rawBefore rawAfter ∧
      unescapeFeeds rawBefore = before ∧ unescapeFeeds rawAfter = after := by
  fun_induction unescapeFeeds text generalizing before with
  | case1 => simp at h
  | case2 rest ih =>
    cases before with
    | nil => exact ⟨[], rest, .inr rfl, rfl, (List.cons.inj h).2⟩
    | cons first before =>
      obtain ⟨rfl, hrest⟩ := List.cons.inj h
      obtain ⟨rawBefore, rawAfter, hbreak, rfl, hafter⟩ := ih hrest
      exact ⟨_, rawAfter, (hbreak.cons _).cons _, by rw [unescapeFeeds], hafter⟩
  | case3 point rest hpoint ih =>
    cases before with
    | nil =>
      obtain ⟨rfl, hrest⟩ := List.cons.inj h
      exact ⟨[], rest, .inl rfl, rfl, hrest⟩
    | cons first before =>
      obtain ⟨rfl, hrest⟩ := List.cons.inj h
      obtain ⟨rawBefore, rawAfter, hbreak, rfl, hafter⟩ := ih hrest
      refine ⟨_, rawAfter, hbreak.cons point, unescapeFeeds_cons ?_, hafter⟩
      rintro rfl hhead
      obtain ⟨_, rfl⟩ := List.head?_eq_some_iff.1 hhead
      rcases hbreak with rfl | rfl <;> exact hpoint _ rfl rfl

theorem feed_mem_unescapeFeeds {text : Text} :
    feed ∈ unescapeFeeds text ↔ ∃ before after, text.BreakAt before after := by
  constructor
  · intro h
    obtain ⟨_, _, h⟩ := List.append_of_mem h
    obtain ⟨before, after, hbreak, -⟩ := exists_breakAt_of_unescapeFeeds h
    exact ⟨before, after, hbreak⟩
  · rintro ⟨before, after, hbreak⟩
    simp [unescapeFeeds_of_breakAt hbreak]

/-- A text without breaks is left as it is. -/
theorem unescapeFeeds_eq_self {text : Text} (h : ∀ before after, ¬text.BreakAt before after) :
    unescapeFeeds text = text := by
  fun_induction unescapeFeeds text with
  | case1 => rfl
  | case2 rest => exact absurd (.inr rfl) (h [] rest)
  | case3 point rest hpoint ih =>
    rw [ih fun before after hbreak ↦ h _ _ (hbreak.cons point)]

theorem unescapeFeeds_eq_nil_iff {text : Text} : unescapeFeeds text = [] ↔ text = [] := by
  fun_cases unescapeFeeds text <;> simp

/-! ## The delimiter -/

/-- A text that ends in its only break is its line and a feed. -/
theorem unescapeFeeds_of_endsOnce {text body : Text} (h : text.EndsOnce body) :
    unescapeFeeds text = body ++ [feed] ∧ feed ∉ body := by
  have hend : text.BreakAt body [] := (h body []).2 ⟨rfl, rfl⟩
  have hbody : ∀ before after, ¬body.BreakAt before after := by
    intro before after hbreak
    rcases hend with rfl | rfl <;> simpa using ((h _ _).1 (hbreak.append _)).2
  have hself : unescapeFeeds body = body := unescapeFeeds_eq_self hbody
  constructor
  · rw [unescapeFeeds_of_breakAt hend, hself]
    rfl
  · rw [← hself, feed_mem_unescapeFeeds]
    exact fun ⟨before, after, hbreak⟩ ↦ hbody before after hbreak

/-- A break that is a feed in the end was one of the two spellings. -/
theorem endsOnce_of_unescapeFeeds {text line : Text}
    (h : unescapeFeeds text = line ++ [feed]) (hline : feed ∉ line) :
    text.EndsOnce line := by
  have hend {before after : Text} (hbreak : text.BreakAt before after) : after = [] := by
    rw [unescapeFeeds_of_breakAt hbreak] at h
    obtain ⟨-, -, hafter⟩ := (List.append_cons_inj_of_notMem hline List.not_mem_nil).1 h.symm
    exact unescapeFeeds_eq_nil_iff.1 hafter.symm
  obtain ⟨before, after, hbreak, rfl, -⟩ := exists_breakAt_of_unescapeFeeds h
  obtain rfl := hend hbreak
  rw [feed_mem_unescapeFeeds] at hline
  have hself : unescapeFeeds before = before :=
    unescapeFeeds_eq_self fun _ _ hinner ↦ hline ⟨_, _, hinner⟩
  rw [hself]
  intro other after
  constructor
  · intro hother
    obtain rfl := hend hother
    exact ⟨hother.inj_of_end hbreak, rfl⟩
  · rintro ⟨rfl, rfl⟩
    exact hbreak

/-- A raw text that ends in its only break makes a delimiter of what stands before the break. -/
theorem parse_of_endsOnce {text body : Text} (h : text.EndsOnce body) :
    ∃ delimiter, Delimiter.parse (unescapeFeeds text) = .ok delimiter ∧ delimiter.line = body := by
  obtain ⟨hfeeds, hbody⟩ := unescapeFeeds_of_endsOnce h
  let delimiter : Delimiter := ⟨body, hbody⟩
  have htext : unescapeFeeds text = delimiter.text := hfeeds
  exact ⟨delimiter, by rw [htext, Delimiter.parse_text], rfl⟩

/-- No other raw text makes a delimiter. -/
theorem endsOnce_of_parse {text : Text} {delimiter : Delimiter}
    (h : Delimiter.parse (unescapeFeeds text) = .ok delimiter) :
    text.EndsOnce delimiter.line := by
  unfold Delimiter.parse at h
  split at h
  · next found hfound =>
    obtain rfl := Except.ok.inj h
    exact endsOnce_of_unescapeFeeds (Delimiter.text_of_ofText? hfound).symm found.line_unbroken
  · exact absurd h nofun

end Settings

end CellWeave
