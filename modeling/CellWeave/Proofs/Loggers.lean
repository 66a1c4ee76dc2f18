import CellWeave.Logger
import Mathlib.Data.List.Basic
import Mathlib.Data.List.Find
/-!
# Names within names

A name that goes on from another by parts behind dots, none of them empty, comes to it from parent
to parent, whichever of the names between them are loggers. A name that does not go on from another
at all never comes to it.
-/

namespace CellWeave.Logger

/-- What stands between the parts of a name. -/
abbrev dot : CodePoint :=
  .char '.'

/-- A name that goes on from `top` by parts behind dots. No part is empty. -/
inductive Continues (top : Text) : Text → Prop
  | top : Continues top top
  | part {name part : Text} (h : Continues top name) (hne : part ≠ []) (hdot : dot ∉ part) :
    Continues top (name ++ dot :: part)

variable {top name part other : Text} {loggers : List Text}

theorem go_append (h : dot ∉ part) (rest : Text) :
    outerNames.go (part ++ rest) = outerNames.go rest := by
  induction part with
  | nil => rfl
  | cons c part ih =>
    rw [List.mem_cons, not_or] at h
    rw [List.cons_append, outerNames.go, ih h.2]
    · exact fun _ _ hc _ ↦ h.1 hc.symm

theorem prefix_of_mem_go {reversed : Text} (h : other ∈ outerNames.go reversed) :
    other ++ [dot] <+: reversed.reverse := by
  fun_induction outerNames.go reversed with
  | case1 => exact absurd h List.not_mem_nil
  | case2 c rest ih =>
    rw [List.reverse_cons]
    rcases List.mem_cons.1 h with rfl | hmem
    · exact List.prefix_rfl
    · rw [List.reverse_cons, List.append_assoc]
      exact (ih hmem).trans (List.prefix_append _ _)
  | case3 c rest _ ih =>
    rw [List.reverse_cons]
    exact (ih h).trans (List.prefix_append _ _)

/-- The names that a name lies in come before its dots. -/
theorem of_mem_outerNames (h : other ∈ outerNames name) : other ++ [dot] <+: name := by
  have hname := prefix_of_mem_go h
  rwa [List.reverse_reverse] at hname

theorem length_lt_of_mem_outerNames (h : other ∈ outerNames name) : other.length < name.length := by
  have hlength := (of_mem_outerNames h).length_le
  rw [List.length_append, List.length_singleton] at hlength
  omega

/-- A part behind a dot adds the name before it to those that a name lies in. -/
theorem outerNames_append (hne : name ≠ []) (hlast : name.getLast? ≠ some dot)
    (hpart : dot ∉ part) :
    outerNames (name ++ dot :: part) = name :: outerNames name := by
  obtain ⟨front, last, rfl⟩ := List.eq_nil_or_concat' name |>.resolve_left hne
  have hlast : last ≠ dot := by simpa using hlast
  have hreverse : (front ++ [last] ++ dot :: part).reverse =
      part.reverse ++ dot :: last :: front.reverse := by simp
  rw [outerNames, hreverse, go_append (by simpa using hpart), outerNames.go, outerNames,
    List.reverse_append]
  simp [outerNames.go, hlast]

/-! ## Parents -/

theorem Continues.ne_nil (h : Continues top name) (htop : top ≠ []) : name ≠ [] := by
  cases h <;> simp [htop]

theorem Continues.getLast?_ne (h : Continues top name) (htop : dot ∉ top) :
    name.getLast? ≠ some dot := by
  cases h with
  | top => exact fun hlast ↦ htop (List.mem_of_getLast? hlast)
  | part _ hne hdot =>
    rename_i part
    rw [List.getLast?_append_of_ne_nil _ (List.cons_ne_nil _ _), List.getLast?_cons_of_ne_nil hne]
    exact fun hlast ↦ hdot (List.mem_of_getLast? hlast)

/-- The parent of a name that goes on from a logger goes on from it too. -/
theorem Continues.parent? (h : Continues top name) (hne : top ≠ []) (hdot : dot ∉ top)
    (hmem : top ∈ loggers) (hname : name ≠ top) :
    ∃ parent, Logger.parent? loggers name = some parent ∧ Continues top parent := by
  induction h with
  | top => exact absurd rfl hname
  | part hinner _ hpart ih =>
    rename_i inner part _
    rw [Logger.parent?, outerNames_append (hinner.ne_nil hne) (hinner.getLast?_ne hdot) hpart,
      List.find?_cons]
    split
    · exact ⟨inner, rfl, hinner⟩
    · next hnot =>
      refine ih ?_
      rintro rfl
      simp [hmem] at hnot

theorem length_lt_of_parent? (h : parent? loggers name = some other) :
    other.length < name.length :=
  length_lt_of_mem_outerNames (List.mem_of_find?_eq_some h)

/-! ## The way up -/

theorem Continues.go_isWithin (h : Continues top name) (hne : top ≠ []) (hdot : dot ∉ top)
    (hmem : top ∈ loggers) {fuel : Nat} (hfuel : name.length ≤ fuel) :
    isWithin.go loggers top fuel name = true := by
  induction fuel generalizing name with
  | zero => exact absurd (List.length_eq_zero_iff.1 (Nat.le_zero.1 hfuel)) (h.ne_nil hne)
  | succ fuel ih =>
    rw [isWithin.go]
    by_cases heq : name = top
    · simp [heq]
    · obtain ⟨parent, hparent, hcontinues⟩ := h.parent? hne hdot hmem heq
      have hlt := length_lt_of_parent? hparent
      rw [hparent, Option.any_some, ih hcontinues (by omega), Bool.or_true]

/-- A name comes to what it goes on from. -/
theorem Continues.isWithin (h : Continues top name) (hne : top ≠ []) (hdot : dot ∉ top)
    (hmem : top ∈ loggers) : isWithin loggers top name = true :=
  h.go_isWithin hne hdot hmem (Nat.le_refl _)

theorem eq_or_prefix_of_go {fuel : Nat} (h : isWithin.go loggers top fuel name = true) :
    name = top ∨ top ++ [dot] <+: name := by
  induction fuel generalizing name with
  | zero => exact .inl (beq_iff_eq.1 h)
  | succ fuel ih =>
    rw [isWithin.go, Bool.or_eq_true, beq_iff_eq, Option.any_eq_true] at h
    rcases h with rfl | ⟨parent, hparent, hgo⟩
    · exact .inl rfl
    · have hprefix := of_mem_outerNames (List.mem_of_find?_eq_some hparent)
      rcases ih hgo with rfl | hinner
      · exact .inr hprefix
      · exact .inr (hinner.trans ((List.prefix_append _ _).trans hprefix))

/-- A name comes to nothing but itself and what it goes on from. -/
theorem eq_or_prefix_of_isWithin (h : isWithin loggers top name = true) :
    name = top ∨ top ++ [dot] <+: name :=
  eq_or_prefix_of_go h

theorem parent?_cons_of_length_le (h : name.length ≤ other.length) :
    parent? (other :: loggers) name = parent? loggers name := by
  apply List.find?_congr
  intro outer houter
  have hlt := length_lt_of_mem_outerNames houter
  have hne : outer ≠ other := by
    rintro rfl
    omega
  simp [hne]

theorem go_isWithin_cons (loggers : List Text) (top : Text) (fuel : Nat)
    (h : name.length ≤ other.length) :
    isWithin.go (other :: loggers) top fuel name = isWithin.go loggers top fuel name := by
  induction fuel generalizing name with
  | zero => rfl
  | succ fuel ih =>
    rw [isWithin.go, isWithin.go, parent?_cons_of_length_le h]
    cases hparent : parent? loggers name with
    | none => rfl
    | some parent =>
      have hlt := length_lt_of_parent? hparent
      rw [Option.any_some, Option.any_some, ih (by omega)]

/-- A name that becomes a logger is heard as before: all that its parents are named for is before
its dots. -/
theorem isWithin_cons_self (loggers : List Text) (top name : Text) :
    isWithin (name :: loggers) top name = isWithin loggers top name :=
  go_isWithin_cons loggers top _ (Nat.le_refl _)

end CellWeave.Logger
