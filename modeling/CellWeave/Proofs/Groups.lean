import CellWeave.CellSpan
import CellWeave.Proofs.Table
import Mathlib.Data.List.Induction
/-!
# Edits under their cells

Grouping keeps every edit, once and in its cell's group, and the edits of a group in the order in
which they were listed. There is one group for each cell that an edit lands in, and the groups come
in the order of their first edits.
-/

namespace CellWeave

theorem nodup_eraseDups (names : List String) : names.eraseDups.Nodup := by
  induction hlength : names.length using Nat.strongRecOn generalizing names with
  | ind length ih =>
    cases names with
    | nil => exact List.nodup_nil
    | cons name rest =>
      have hshorter : (rest.filter fun other ↦ !other == name).length < length := by
        have := List.length_filter_le (fun other ↦ !other == name) rest
        rw [List.length_cons] at hlength
        omega
      rw [List.eraseDups_cons, List.nodup_cons]
      refine ⟨?_, ih _ hshorter _ rfl⟩
      intro hname
      simpa using List.mem_eraseDups.1 hname

theorem eraseDups_concat (names : List String) (name : String) :
    (names ++ [name]).eraseDups =
      if name ∈ names then names.eraseDups else names.eraseDups ++ [name] := by
  rw [List.eraseDups_append]
  by_cases h : name ∈ names <;> simp [List.removeAll, h, List.eraseDups_cons]

namespace Table

variable {α : Type} {names : List String}

theorem keys_map (names : List String) (f : String → α) :
    keys (names.map fun name ↦ (name, f name)) = names := by
  rw [keys, List.map_map]
  exact List.map_id names

theorem get?_map_of_mem (f : String → α) {name : String} (h : name ∈ names) :
    get? (names.map fun name ↦ (name, f name)) name = some (f name) := by
  induction names with
  | nil => exact absurd h List.not_mem_nil
  | cons other rest ih =>
    rw [List.map_cons, get?_cons]
    split
    · next heq => rw [heq]
    · next hne => exact ih (List.mem_of_ne_of_mem hne h)

theorem set_map_of_mem (hnames : names.Nodup) (f : String → α) {name : String} (h : name ∈ names)
    (value : α) : set (names.map fun name ↦ (name, f name)) name value =
      names.map fun other ↦ (other, if other = name then value else f other) := by
  induction names with
  | nil => exact absurd h List.not_mem_nil
  | cons other rest ih =>
    obtain ⟨hother, hrest⟩ := List.nodup_cons.1 hnames
    rw [List.map_cons, set, List.map_cons]
    by_cases heq : other = name
    · subst heq
      have hsame : ∀ later ∈ rest,
          (later, f later) = (later, if later = other then value else f later) := by
        intro later hlater
        have hne : later ≠ other := fun heq ↦ hother (heq ▸ hlater)
        rw [if_neg hne]
      rw [if_pos rfl, if_pos rfl, List.map_congr_left hsame]
    · rw [if_neg heq, if_neg heq, ih hrest (List.mem_of_ne_of_mem (Ne.symm heq) h)]

end Table

namespace DocumentIndex

/-- The edits that land in a cell, in the order in which they are listed. -/
def editsOf (edits : List (String × Edit)) (cell : String) : List Edit :=
  (edits.filter (·.1 = cell)).map (·.2)

theorem mem_editsOf {edits : List (String × Edit)} {cell : String} {edit : Edit} :
    edit ∈ editsOf edits cell ↔ (cell, edit) ∈ edits := by
  simp [editsOf]

theorem editsOf_concat (edits : List (String × Edit)) (item : String × Edit) (cell : String) :
    editsOf (edits ++ [item]) cell =
      if cell = item.1 then editsOf edits cell ++ [item.2] else editsOf edits cell := by
  by_cases h : cell = item.1 <;> simp [editsOf, h, eq_comm]

theorem editsOf_eq_nil_iff {edits : List (String × Edit)} {cell : String} :
    editsOf edits cell = [] ↔ cell ∉ edits.map (·.1) := by
  rw [List.eq_nil_iff_forall_not_mem, List.mem_map]
  simp [mem_editsOf]

/-- The groups of a list of edits, all at once. -/
theorem groupEdits_eq (edits : List (String × Edit)) :
    groupEdits edits = (edits.map (·.1)).eraseDups.map fun cell ↦ ⟨cell, editsOf edits cell⟩ := by
  suffices h : edits.foldl
      (fun groups item ↦ Table.set groups item.1 ((groups.get? item.1).getD [] ++ [item.2])) [] =
        (edits.map (·.1)).eraseDups.map fun cell ↦ (cell, editsOf edits cell) by
    rw [groupEdits, h, List.map_map]
    rfl
  induction edits using List.reverseRecOn with
  | nil => rfl
  | append_singleton edits item ih =>
    rw [List.foldl_concat, ih, List.map_append, List.map_singleton, eraseDups_concat]
    by_cases hitem : item.1 ∈ edits.map (·.1)
    · have hmem : item.1 ∈ (edits.map (·.1)).eraseDups := List.mem_eraseDups.2 hitem
      rw [if_pos hitem, Table.get?_map_of_mem (editsOf edits) hmem, Option.getD_some,
        Table.set_map_of_mem (nodup_eraseDups _) (editsOf edits) hmem]
      apply List.map_congr_left
      intro cell _
      rw [editsOf_concat]
      split
      · next heq => rw [heq]
      · rfl
    · have hmem : item.1 ∉ Table.keys ((edits.map (·.1)).eraseDups.map fun cell ↦
          (cell, editsOf edits cell)) := by
        rwa [Table.keys_map, List.mem_eraseDups]
      have hsame : ∀ cell ∈ (edits.map (·.1)).eraseDups,
          (cell, editsOf edits cell) = (cell, editsOf (edits ++ [item]) cell) := by
        intro cell hcell
        have hne : cell ≠ item.1 := fun heq ↦ hitem (heq ▸ List.mem_eraseDups.1 hcell)
        rw [editsOf_concat, if_neg hne]
      rw [if_neg hitem, Table.get?_eq_none_iff.2 hmem, Option.getD_none, List.nil_append,
        Table.set_of_notMem hmem, List.map_append, List.map_singleton,
        List.map_congr_left hsame, editsOf_concat, if_pos rfl, editsOf_eq_nil_iff.2 hitem,
        List.nil_append]

/-- The groups are in the order in which their cells come first. -/
theorem map_cell_groupEdits (edits : List (String × Edit)) :
    (groupEdits edits).map (·.cell) = (edits.map (·.1)).eraseDups := by
  rw [groupEdits_eq, List.map_map]
  exact List.map_id _

/-- A group has a cell with edits, and all of them. -/
theorem mem_groupEdits {edits : List (String × Edit)} {group : EditGroup} :
    group ∈ groupEdits edits ↔
      group.cell ∈ edits.map (·.1) ∧ group.edits = editsOf edits group.cell := by
  rw [groupEdits_eq, List.mem_map]
  constructor
  · rintro ⟨cell, hcell, rfl⟩
    exact ⟨List.mem_eraseDups.1 hcell, rfl⟩
  · rintro ⟨hcell, hedits⟩
    refine ⟨group.cell, List.mem_eraseDups.2 hcell, ?_⟩
    rw [← hedits]

end DocumentIndex

end CellWeave
