/-!
# Tables

A table holds entries under names, in the order in which the names came in. Writing under a name
that is there keeps its place; a name that was erased comes in again at the end.
-/

namespace CellWeave

abbrev Table (α : Type) := List (String × α)

namespace Table

variable {α : Type}

def get? (table : Table α) (name : String) : Option α :=
  table.lookup name

def keys (table : Table α) : List String :=
  table.map (·.1)

def values (table : Table α) : List α :=
  table.map (·.2)

def has (table : Table α) (name : String) : Bool :=
  (get? table name).isSome

def set (table : Table α) (name : String) (value : α) : Table α :=
  match table with
  | [] => [(name, value)]
  | entry :: rest =>
    if entry.1 = name then (name, value) :: rest else entry :: set rest name value

/-- Writes under a name if there is something to write. -/
def keep (table : Table α) (name : String) (value : Option α) : Table α :=
  match value with
  | some value => set table name value
  | none => table

def erase (table : Table α) (name : String) : Table α :=
  table.filter (·.1 != name)

def ofList (entries : List (String × α)) : Table α :=
  entries.foldl (fun table entry ↦ set table entry.1 entry.2) []

@[simp] theorem get?_nil (name : String) : get? ([] : Table α) name = none :=
  rfl

theorem get?_cons (key : String) (value : α) (rest : Table α) (name : String) :
    get? ((key, value) :: rest) name = if name = key then some value else get? rest name := by
  unfold get?
  rw [List.lookup_cons]
  by_cases h : name = key
  · simp [h]
  · simp [h, beq_eq_false_iff_ne.2 h]

/-- Nothing is looked up under a name that is not there. -/
theorem get?_eq_none_iff {table : Table α} {name : String} :
    get? table name = none ↔ name ∉ keys table := by
  induction table with
  | nil => simp [keys]
  | cons entry rest ih =>
    obtain ⟨key, value⟩ := entry
    rw [get?_cons]
    by_cases h : name = key
    · simp [h, keys]
    · rw [if_neg h, ih]
      simp [h, keys]

theorem get?_set (table : Table α) (name : String) (value : α) (other : String) :
    get? (set table name value) other = if other = name then some value else get? table other := by
  induction table with
  | nil => simp [set, get?_cons]
  | cons entry rest ih =>
    obtain ⟨key, kept⟩ := entry
    by_cases hk : key = name
    · subst hk
      by_cases ho : other = key <;> simp [set, get?_cons, ho]
    · by_cases ho : other = key
      · subst ho
        simp [set, get?_cons, hk]
      · simp [set, get?_cons, hk, ho, ih]

/-- A new name comes last. -/
theorem set_of_notMem {table : Table α} {name : String} (h : name ∉ keys table) (value : α) :
    set table name value = table ++ [(name, value)] := by
  induction table with
  | nil => rfl
  | cons entry rest ih =>
    obtain ⟨hentry, hrest⟩ : name ≠ entry.1 ∧ name ∉ keys rest := by
      simpa [keys] using h
    rw [set, if_neg hentry.symm, ih hrest, List.cons_append]

/-- A name that is there keeps its place. -/
theorem keys_set_of_mem {table : Table α} {name : String} (h : name ∈ keys table) (value : α) :
    keys (set table name value) = keys table := by
  induction table with
  | nil => simp [keys] at h
  | cons entry rest ih =>
    rw [set]
    split
    · next hentry => simp [keys, hentry]
    · next hentry =>
      have hrest : name ∈ keys rest := by
        simpa [keys, Ne.symm hentry] using h
      have := ih hrest
      simp_all [keys]

theorem keys_set (table : Table α) (name : String) (value : α) :
    keys (set table name value) =
      if name ∈ keys table then keys table else keys table ++ [name] := by
  split
  · next h => exact keys_set_of_mem h value
  · next h =>
    rw [set_of_notMem h]
    simp [keys]

theorem nodup_keys_set {table : Table α} (h : (keys table).Nodup) (name : String) (value : α) :
    (keys (set table name value)).Nodup := by
  rw [keys_set]
  split
  · exact h
  · next hname =>
    refine List.nodup_append.2 ⟨h, by simp, fun other hother key hkey ↦ ?_⟩
    rw [List.mem_singleton.1 hkey]
    rintro rfl
    exact hname hother

theorem get?_erase (table : Table α) (name other : String) :
    get? (erase table name) other = if other = name then none else get? table other := by
  induction table with
  | nil => simp [erase]
  | cons entry rest ih =>
    obtain ⟨key, kept⟩ := entry
    simp only [erase, List.filter_cons] at ih ⊢
    by_cases hk : key = name
    · subst hk
      by_cases ho : other = key <;> simp_all [get?_cons]
    · by_cases ho : other = key
      · subst ho
        simp_all [get?_cons]
      · simp_all [get?_cons]

end Table

end CellWeave
