import TriggerCompose.SortedMap

/-!
# Listing a sorted map and reading the list back

Inserting the entries of a map in their order puts each one at the end, so the list of
the entries gives the map back. Inserting any entries leaves the last one of every key.

## Main statements

* `SortedMap.ofList_entries`: the map of the entries of a map.
* `SortedMap.get?_ofList`: what the map of a list holds.
* `SortedMap.eq_of_get?`: maps that hold the same are equal.
-/

namespace TriggerCompose.SortedMap

variable {α : Type}

theorem insertEntry_of_forall_lt {key : String} (value : α) {entries : List (String × α)}
    (h : ∀ e ∈ entries, e.1 < key) : insertEntry key value entries = entries ++ [(key, value)] := by
  induction entries with
  | nil => rfl
  | cons head rest ih =>
    obtain ⟨hhead, hrest⟩ := List.forall_mem_cons.mp h
    have hnot : ¬ key < head.1 := fun hlt => String.lt_irrefl key (String.lt_trans hlt hhead)
    rw [insertEntry, if_neg hnot, if_pos hhead, ih hrest, List.cons_append]

theorem entries_foldl_insert {map : SortedMap α} {later : List (String × α)}
    (h : (map.entries ++ later).Pairwise fun a b => a.1 < b.1) :
    (later.foldl (fun map entry => map.insert entry.1 entry.2) map).entries =
      map.entries ++ later := by
  induction later generalizing map with
  | nil => simp
  | cons entry later ih =>
    have hlast : ∀ e ∈ map.entries, e.1 < entry.1 := by
      intro e he
      exact (List.pairwise_append.mp h).2.2 e he entry List.mem_cons_self
    have hinsert : (map.insert entry.1 entry.2).entries = map.entries ++ [entry] :=
      insertEntry_of_forall_lt entry.2 hlast
    have hsplit : map.entries ++ entry :: later = map.entries ++ [entry] ++ later := by
      rw [List.append_assoc, List.singleton_append]
    rw [List.foldl_cons, ih (by rwa [hinsert, ← hsplit]), hinsert, hsplit]

theorem eq_of_entries {a b : SortedMap α} (h : a.entries = b.entries) : a = b := by
  cases a
  cases b
  cases h
  rfl

/-- The map of the entries of a map is that map. -/
theorem ofList_entries (map : SortedMap α) : ofList map.entries = map := by
  have hascending : ((empty : SortedMap α).entries ++ map.entries).Pairwise
      fun a b => a.1 < b.1 := map.ascending
  exact eq_of_entries (entries_foldl_insert hascending)

/-! ### Looking up -/

theorem lookup_cons_eq_ite (entry : String × α) (rest : List (String × α)) (sought : String) :
    (entry :: rest).lookup sought = if sought = entry.1 then some entry.2 else rest.lookup sought := by
  by_cases hsought : sought = entry.1
  · rw [List.lookup_cons, beq_iff_eq.mpr hsought, if_pos hsought]
  · rw [List.lookup_cons, beq_eq_false_iff_ne.mpr hsought, if_neg hsought]

theorem lookup_insertEntry (key : String) (value : α) (entries : List (String × α))
    (sought : String) :
    (insertEntry key value entries).lookup sought =
      if sought = key then some value else entries.lookup sought := by
  induction entries with
  | nil => rw [insertEntry, lookup_cons_eq_ite]
  | cons head rest ih =>
    obtain ⟨key', value'⟩ := head
    rw [insertEntry]
    split
    next => rw [lookup_cons_eq_ite]
    next hlt =>
      split
      next hgt =>
        -- The entry stays in front, and its key is not the one that was inserted.
        have hne : key' ≠ key := fun heq => String.lt_irrefl key (heq ▸ hgt)
        rw [lookup_cons_eq_ite, lookup_cons_eq_ite, ih]
        by_cases hsought : sought = key'
        · rw [if_pos hsought, if_pos hsought, if_neg (hsought ▸ hne)]
        · rw [if_neg hsought, if_neg hsought]
      next hgt =>
        have heq : key = key' := String.le_antisymm (String.not_lt.1 hgt) (String.not_lt.1 hlt)
        subst heq
        rw [lookup_cons_eq_ite, lookup_cons_eq_ite]
        by_cases hsought : sought = key
        · rw [if_pos hsought, if_pos hsought]
        · rw [if_neg hsought, if_neg hsought, if_neg hsought]

theorem get?_insert (map : SortedMap α) (key : String) (value : α) (sought : String) :
    (map.insert key value).get? sought = if sought = key then some value else map.get? sought :=
  lookup_insertEntry key value map.entries sought

theorem get?_foldl_insert (entries : List (String × α)) (map : SortedMap α) (sought : String) :
    (entries.foldl (fun map entry => map.insert entry.1 entry.2) map).get? sought =
      (entries.reverse.lookup sought).or (map.get? sought) := by
  induction entries generalizing map with
  | nil => rfl
  | cons entry entries ih =>
    rw [List.foldl_cons, ih, get?_insert, List.reverse_cons, List.lookup_append,
      lookup_cons_eq_ite, List.lookup_nil, Option.or_assoc]
    by_cases hsought : sought = entry.1
    · rw [if_pos hsought, if_pos hsought, Option.some_or]
    · rw [if_neg hsought, if_neg hsought, Option.none_or]

/-- Of the entries with one key, the last one stands. -/
theorem get?_ofList (entries : List (String × α)) (sought : String) :
    (ofList entries).get? sought = entries.reverse.lookup sought := by
  rw [ofList, get?_foldl_insert]
  exact Option.or_none

theorem get?_eq_some_iff {map : SortedMap α} {key : String} {value : α} :
    map.get? key = some value ↔ (key, value) ∈ map.entries := by
  obtain ⟨entries, ascending⟩ := map
  change entries.lookup key = some value ↔ (key, value) ∈ entries
  induction entries with
  | nil => simp
  | cons head rest ih =>
    obtain ⟨hhead, hrest⟩ := List.pairwise_cons.mp ascending
    rw [lookup_cons_eq_ite, List.mem_cons]
    by_cases hkey : key = head.1
    · -- The key stands in front, and no later entry has it again.
      have hlater : (key, value) ∉ rest := by
        intro hmem
        have hlt : head.1 < key := hhead _ hmem
        exact String.lt_irrefl key (hkey ▸ hlt)
      rw [if_pos hkey, or_iff_left hlater, Prod.ext_iff, Option.some.injEq]
      exact ⟨fun hvalue => ⟨hkey, hvalue.symm⟩, fun h => h.2.symm⟩
    · rw [if_neg hkey, ih hrest, or_iff_right fun heq => hkey (congrArg Prod.fst heq)]

/-- A map is known by what it holds. -/
theorem eq_of_get? {a b : SortedMap α} (h : ∀ key, a.get? key = b.get? key) : a = b := by
  have hnodup : ∀ map : SortedMap α, map.entries.Nodup := by
    intro map
    refine map.ascending.imp fun {e e'} hlt heq => ?_
    rw [heq] at hlt
    exact String.lt_irrefl _ hlt
  have hmem : ∀ e, e ∈ a.entries ↔ e ∈ b.entries := by
    rintro ⟨key, value⟩
    rw [← get?_eq_some_iff, ← get?_eq_some_iff, h]
  have hperm : a.entries.Perm b.entries :=
    (List.perm_ext_iff_of_nodup (hnodup a) (hnodup b)).mpr hmem
  apply eq_of_entries
  refine hperm.eq_of_pairwise (fun x y _ _ hxy hyx => ?_) a.ascending b.ascending
  exact absurd (String.lt_trans hxy hyx) (String.lt_irrefl _)

theorem mem_keys_iff {map : SortedMap α} {key : String} :
    key ∈ map.keys ↔ ∃ value, map.get? key = some value := by
  rw [← Option.isSome_iff_exists, get?, List.lookup_isSome_iff, keys, List.mem_map]
  simp only [beq_iff_eq, @eq_comm _ key]

end TriggerCompose.SortedMap
