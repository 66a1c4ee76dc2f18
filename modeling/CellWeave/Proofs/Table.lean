import CellWeave.Table
import Mathlib.Data.List.Nodup
import Mathlib.Tactic.Tauto
/-!
# Names of a table

Writing under a name adds it at the end or changes nothing about the names, so a table that is only
written to has every name once. In such a table an entry is what reading its name gives.
-/

namespace CellWeave

namespace Table

variable {α : Type}

theorem mem_of_get? {table : Table α} {name : String} {value : α}
    (h : get? table name = some value) : (name, value) ∈ table := by
  induction table with
  | nil => simp at h
  | cons entry rest ih =>
    obtain ⟨key, kept⟩ := entry
    rw [get?_cons] at h
    split at h
    · next hkey =>
      obtain rfl := Option.some.inj h
      rw [hkey]
      exact List.mem_cons_self
    · exact List.mem_cons_of_mem _ (ih h)

theorem mem_keys_of_mem {table : Table α} {name : String} {value : α} (h : (name, value) ∈ table) :
    name ∈ keys table :=
  List.mem_map.2 ⟨(name, value), h, rfl⟩

/-- With distinct names, what is looked up is what is there. -/
theorem get?_eq_some_iff {table : Table α} (hkeys : (keys table).Nodup) {name : String}
    {value : α} : get? table name = some value ↔ (name, value) ∈ table := by
  refine ⟨mem_of_get?, fun hmem ↦ ?_⟩
  cases hget : get? table name with
  | none => exact absurd (mem_keys_of_mem hmem) (get?_eq_none_iff.1 hget)
  | some kept =>
    have hkept : (name, kept) = (name, value) :=
      List.inj_on_of_nodup_map hkeys (mem_of_get? hget) hmem rfl
    rw [(Prod.mk.inj hkept).2]

/-! ## Writing -/

theorem mem_keys_set {table : Table α} {name other : String} {value : α} :
    other ∈ keys (set table name value) ↔ other = name ∨ other ∈ keys table := by
  rw [keys_set]
  split
  · next hname =>
    constructor
    · exact .inr
    · rintro (rfl | h)
      · exact hname
      · exact h
  · rw [List.mem_append, List.mem_singleton, or_comm]

/-- After a change there is nothing new but the entry that was set. -/
theorem mem_of_mem_set {table : Table α} {name : String} {value : α} {entry : String × α}
    (h : entry ∈ set table name value) : entry = (name, value) ∨ entry ∈ table := by
  induction table with
  | nil => exact .inl (List.mem_singleton.1 h)
  | cons first rest ih =>
    rw [set] at h
    split at h
    · exact (List.mem_cons.1 h).imp_right (List.mem_cons_of_mem first)
    · rcases List.mem_cons.1 h with rfl | h
      · exact .inr List.mem_cons_self
      · exact (ih h).imp_right (List.mem_cons_of_mem first)

theorem mem_of_mem_ofList {entries : List (String × α)} {entry : String × α}
    (h : entry ∈ ofList entries) : entry ∈ entries := by
  suffices ∀ table : Table α,
      entry ∈ entries.foldl (fun table entry ↦ set table entry.1 entry.2) table →
        entry ∈ table ∨ entry ∈ entries from
    (this [] h).resolve_left List.not_mem_nil
  clear h
  induction entries with
  | nil => exact fun table h ↦ .inl h
  | cons first rest ih =>
    intro table h
    rcases ih _ h with hset | hrest
    · rcases mem_of_mem_set hset with rfl | htable
      · exact .inr List.mem_cons_self
      · exact .inl htable
    · exact .inr (List.mem_cons_of_mem first hrest)

theorem keys_ofList (entries : List (String × α)) :
    (keys (ofList entries)).Nodup ∧
      ∀ name, name ∈ keys (ofList entries) ↔ name ∈ entries.map (·.1) := by
  suffices ∀ table : Table α, (keys table).Nodup →
      (keys (entries.foldl (fun table entry ↦ set table entry.1 entry.2) table)).Nodup ∧
        ∀ name, name ∈ keys (entries.foldl (fun table entry ↦ set table entry.1 entry.2) table) ↔
          name ∈ keys table ∨ name ∈ entries.map (·.1) by
    simpa [ofList, keys] using this [] List.nodup_nil
  induction entries with
  | nil => simp
  | cons entry rest ih =>
    intro table htable
    obtain ⟨hnodup, hmem⟩ := ih _ (nodup_keys_set htable entry.1 entry.2)
    refine ⟨hnodup, fun name ↦ ?_⟩
    rw [List.foldl_cons, hmem, mem_keys_set, List.map_cons, List.mem_cons]
    tauto

/-- A list of entries with distinct names is a table. -/
theorem ofList_eq_self {entries : List (String × α)} (h : (entries.map (·.1)).Nodup) :
    ofList entries = entries := by
  suffices ∀ table : Table α, (keys (table ++ entries)).Nodup →
      entries.foldl (fun table entry ↦ set table entry.1 entry.2) table = table ++ entries from
    this [] h
  intro table htable
  induction entries generalizing table with
  | nil => simp
  | cons entry rest ih =>
    have hentry : entry.1 ∉ keys table := by
      rw [keys, List.map_append, List.nodup_append] at htable
      exact fun hmem ↦ htable.2.2 _ hmem _ (List.mem_map.2 ⟨entry, List.mem_cons_self, rfl⟩) rfl
    rw [List.foldl_cons, set_of_notMem hentry, ih (List.nodup_cons.1 h).2]
    · rw [List.append_assoc, List.singleton_append]
    · rwa [List.append_assoc, List.singleton_append]

end Table

end CellWeave
