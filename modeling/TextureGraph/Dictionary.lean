/-!
# Dictionaries

Finite maps from names, listed by the time at which each name was last given a
value. No name is listed twice.
-/

namespace TextureGraph

structure Dictionary (α : Type) where
  entries : List (String × α)
  nodup : (entries.map Prod.fst).Nodup

namespace Dictionary

variable {α : Type}

def empty : Dictionary α := ⟨[], by simp⟩

instance : Inhabited (Dictionary α) := ⟨empty⟩

/-- Give a name a value, in place of the one it may have. -/
def insert (dictionary : Dictionary α) (name : String) (value : α) : Dictionary α where
  entries := dictionary.entries.filter (·.1 != name) ++ [(name, value)]
  nodup := by
    rw [List.map_append, List.nodup_append]
    refine ⟨dictionary.nodup.sublist (List.filter_sublist.map _), by simp, ?_⟩
    intro kept kept_mem new new_mem same
    obtain ⟨entry, entry_mem, rfl⟩ := List.mem_map.mp kept_mem
    have differs := (List.mem_filter.mp entry_mem).2
    simp only [List.map_cons, List.map_nil, List.mem_singleton] at new_mem
    simp [same, new_mem] at differs

/-- Dictionary of a list of entries, of which the last for a name counts. -/
def ofList (entries : List (String × α)) : Dictionary α :=
  entries.foldl (fun dictionary entry => dictionary.insert entry.1 entry.2) empty

def get? (dictionary : Dictionary α) (name : String) : Option α :=
  (dictionary.entries.find? (·.1 == name)).map Prod.snd

def keys (dictionary : Dictionary α) : List String :=
  dictionary.entries.map Prod.fst

def values (dictionary : Dictionary α) : List α :=
  dictionary.entries.map Prod.snd

/-- Entries in the order of their names. -/
def sorted (dictionary : Dictionary α) : List (String × α) :=
  dictionary.entries.mergeSort fun a b => decide (a.1 ≤ b.1)

/-- Dictionaries with the same entries in the same order are equal. -/
theorem ext_entries {a b : Dictionary α} (entries_eq : a.entries = b.entries) : a = b := by
  cases a
  cases b
  simpa using entries_eq

theorem mem_values_of_get? {dictionary : Dictionary α} {name : String} {value : α}
    (found : dictionary.get? name = some value) : value ∈ dictionary.values := by
  rcases Option.map_eq_some_iff.mp found with ⟨entry, entry_found, rfl⟩
  exact List.mem_map_of_mem (List.mem_of_find?_eq_some entry_found)

theorem exists_get?_iff {dictionary : Dictionary α} {name : String} :
    (∃ value, dictionary.get? name = some value) ↔ name ∈ dictionary.keys := by
  rw [← Option.isSome_iff_exists, get?, Option.isSome_map, List.find?_isSome, keys, List.mem_map]
  simp only [beq_iff_eq]

theorem get?_insert_self (dictionary : Dictionary α) (name : String) (value : α) :
    (dictionary.insert name value).get? name = some value := by
  have absent : (dictionary.entries.filter (·.1 != name)).find? (·.1 == name) = none := by
    rw [List.find?_eq_none]
    intro entry entry_mem
    have differs := (List.mem_filter.mp entry_mem).2
    simpa only [bne_iff_ne, ne_eq, beq_iff_eq] using differs
  simp only [get?, insert, List.find?_append, absent, Option.none_or, List.find?_cons_of_pos,
    beq_self_eq_true, Option.map_some]

end Dictionary

end TextureGraph
