/-!
# Maps sorted by key

A finite map from strings, held as the list of its entries in strictly ascending
order of keys, so that equal maps are equal values and listing a map gives its
entries in code point order.

## Main definitions

* `SortedMap`: the entries with the proof that they ascend.
* `SortedMap.insert`: adds or replaces one entry.
* `SortedMap.ofList`: the map of a list of entries, where the last one of a key
  stands.
* `SortedMap.get?`: the value of a key.
-/

namespace TriggerCompose

universe u

/-- A map from strings, its entries in strictly ascending order of keys. -/
structure SortedMap (α : Type u) where
  entries : List (String × α)
  ascending : entries.Pairwise fun a b => a.1 < b.1

namespace SortedMap

variable {α : Type u}

/-- The map without entries. -/
def empty : SortedMap α where
  entries := []
  ascending := .nil

instance : Inhabited (SortedMap α) := ⟨empty⟩

/-- Puts an entry in its place among ascending entries; it replaces the entry of
    the same key. -/
def insertEntry (key : String) (value : α) : List (String × α) → List (String × α)
  | [] => [(key, value)]
  | (key', value') :: rest =>
    if key < key' then (key, value) :: (key', value') :: rest
    else if key' < key then (key', value') :: insertEntry key value rest
    else (key, value) :: rest

/-- The keys after an insertion are the key inserted and the keys before. -/
theorem key_mem_insertEntry {key : String} {value : α} {entries : List (String × α)}
    {e : String × α} (h : e ∈ insertEntry key value entries) :
    e.1 = key ∨ e ∈ entries := by
  induction entries with
  | nil => simp_all [insertEntry]
  | cons head rest ih =>
    obtain ⟨key', value'⟩ := head
    rw [insertEntry] at h
    split at h
    · simp only [List.mem_cons] at h
      rcases h with rfl | h
      · exact .inl rfl
      · exact .inr (List.mem_cons.2 h)
    · split at h
      · rcases List.mem_cons.1 h with rfl | h
        · exact .inr List.mem_cons_self
        · exact (ih h).imp_right (List.mem_cons_of_mem _)
      · rcases List.mem_cons.1 h with rfl | h
        · exact .inl rfl
        · exact .inr (List.mem_cons_of_mem _ h)

/-- Insertion keeps the entries ascending. -/
theorem insertEntry_ascending (key : String) (value : α) {entries : List (String × α)}
    (h : entries.Pairwise fun a b => a.1 < b.1) :
    (insertEntry key value entries).Pairwise fun a b => a.1 < b.1 := by
  induction entries with
  | nil => simp [insertEntry]
  | cons head rest ih =>
    obtain ⟨key', value'⟩ := head
    obtain ⟨hhead, hrest⟩ := List.pairwise_cons.1 h
    rw [insertEntry]
    split
    · rename_i hlt
      refine List.pairwise_cons.2 ⟨fun e he => ?_, h⟩
      rcases List.mem_cons.1 he with rfl | he
      · exact hlt
      · exact String.lt_trans hlt (hhead e he)
    · split
      · rename_i hgt
        refine List.pairwise_cons.2 ⟨fun e he => ?_, ih hrest⟩
        rcases key_mem_insertEntry he with heq | he
        · simpa [heq] using hgt
        · exact hhead e he
      · rename_i hlt hgt
        have heq : key = key' := String.le_antisymm (String.not_lt.1 hgt) (String.not_lt.1 hlt)
        subst heq
        exact List.pairwise_cons.2 ⟨hhead, hrest⟩

/-- A map with one entry added or replaced. -/
def insert (map : SortedMap α) (key : String) (value : α) : SortedMap α where
  entries := insertEntry key value map.entries
  ascending := insertEntry_ascending key value map.ascending

/-- The map of a list of entries. Of two entries with one key, the later stands. -/
def ofList (entries : List (String × α)) : SortedMap α :=
  entries.foldl (fun map entry => map.insert entry.1 entry.2) empty

/-- The value of a key. -/
def get? (map : SortedMap α) (key : String) : Option α :=
  map.entries.lookup key

/-- The number of entries. -/
def size (map : SortedMap α) : Nat :=
  map.entries.length

/-- The keys in ascending order. -/
def keys (map : SortedMap α) : List String :=
  map.entries.map (·.1)

end SortedMap

end TriggerCompose
