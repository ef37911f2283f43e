import TriggerCompose.Cli.Trace
import TriggerCompose.Proofs.Filter.RoundTrip
import TriggerCompose.Proofs.Outcome
import Mathlib.Algebra.Ring.Nat
import Mathlib.Data.List.Dedup

/-!
# Colliding filter clauses

Of the clauses that share a field and an operator, a map holds the last one. So nothing but
the order of clauses with the same pair matters, the map has an entry for every pair, and
it has fewer entries than the list has clauses just if two of them share one.

## Main definitions

* `FilterMap.IsLast`: a clause is the last of its pair.
* `FilterMap.Reordered`: lists with the same clauses for each pair, in the same order.
* `FilterMap.Grouped`: what the map of a clause list holds.

## Main statements

* `FilterMap.entryCount_ofClauses`: entries are counted by pairs.
* `FilterMap.exists_warning_iff`: when the command warns.
* `FilterMap.grouped_ofClauses`: the map of a clause list.
-/

namespace TriggerCompose

/-- The field and the operator of a clause. -/
def FilterClause.pair (c : FilterClause) : String × String :=
  (c.field, c.operator)

namespace FilterMap

/-! ### Last clauses -/

/-- A clause of a list that no clause with the same pair follows. -/
def IsLast (clauses : List FilterClause) (c : FilterClause) : Prop :=
  ∃ earlier later, clauses = earlier ++ c :: later ∧ ∀ d ∈ later, d.pair ≠ c.pair

theorem lastClause?_eq_some_iff {clauses : List FilterClause} {field operator : String}
    {c : FilterClause} :
    lastClause? clauses field operator = some c ↔
      c.pair = (field, operator) ∧ IsLast clauses c := by
  rw [lastClause?, List.find?_eq_some_iff_append, decide_eq_true_eq, FilterClause.pair,
    Prod.mk.injEq]
  refine and_congr_right ?_
  rintro ⟨rfl, rfl⟩
  have hother : ∀ d : FilterClause,
      (!decide (d.field = c.field ∧ d.operator = c.operator)) = true ↔ d.pair ≠ c.pair := by
    intro d
    rw [Bool.not_eq_true', decide_eq_false_iff_not, Ne, FilterClause.pair, FilterClause.pair,
      Prod.mk.injEq]
  simp only [hother]
  constructor
  · rintro ⟨later, earlier, hreverse, hlater⟩
    refine ⟨earlier.reverse, later.reverse, ?_, ?_⟩
    · rw [← List.reverse_reverse clauses, hreverse]
      simp
    · intro d hd
      exact hlater d (List.mem_reverse.mp hd)
  · rintro ⟨earlier, later, rfl, hlater⟩
    refine ⟨later.reverse, earlier.reverse, by simp, ?_⟩
    intro d hd
    exact hlater d (List.mem_reverse.mp hd)

/-- A map of a clause list holds the value of the last clause of every pair. -/
theorem value?_ofClauses_eq_some_iff {clauses : List FilterClause} {field operator : String}
    {value : Json} :
    (ofClauses clauses).value? field operator = some value ↔
      IsLast clauses ⟨field, operator, value⟩ := by
  rw [value?_ofClauses, Option.map_eq_some_iff]
  simp only [lastClause?_eq_some_iff]
  constructor
  · rintro ⟨⟨_, _, _⟩, ⟨hpair, hlast⟩, rfl⟩
    cases hpair
    exact hlast
  · intro hlast
    exact ⟨_, ⟨rfl, hlast⟩, rfl⟩

theorem exists_value?_ofClauses_iff {clauses : List FilterClause} {field operator : String} :
    (∃ value, (ofClauses clauses).value? field operator = some value) ↔
      (field, operator) ∈ clauses.map FilterClause.pair := by
  rw [← Option.isSome_iff_exists, value?_ofClauses, Option.isSome_map, lastClause?,
    List.find?_isSome, List.mem_map]
  simp [FilterClause.pair]

/-! ### Order -/

/-- In both lists every field and operator have the same clauses in the same order. -/
def Reordered (clauses other : List FilterClause) : Prop :=
  ∀ field operator, (other.filter fun c => c.field = field ∧ c.operator = operator) =
    clauses.filter fun c => c.field = field ∧ c.operator = operator

theorem ofClauses_eq_of_reordered {clauses other : List FilterClause}
    (h : Reordered clauses other) : ofClauses other = ofClauses clauses := by
  apply eq_of_value? (noBareField_ofClauses _) (noBareField_ofClauses _)
  intro field operator
  rw [value?_ofClauses, value?_ofClauses, lastClause?, lastClause?, ← List.getLast?_filter,
    ← List.getLast?_filter, h field operator]

/-! ### Entries -/

theorem foldl_size_eq (entries : List (String × SortedMap Json)) (count : Nat) :
    entries.foldl (fun count e => count + e.2.size) count =
      count + (entries.map fun e => e.2.size).sum := by
  induction entries generalizing count with
  | nil => rfl
  | cons e entries ih =>
    rw [List.foldl_cons, ih, List.map_cons, List.sum_cons, Nat.add_assoc]

theorem entryCount_eq_length (map : FilterMap) : map.entryCount = map.clauses.length := by
  have hcount : map.entryCount = 0 + (map.entries.map fun e => e.2.size).sum :=
    foldl_size_eq map.entries 0
  rw [hcount, Nat.zero_add, clauses, List.length_flatMap]
  simp only [List.length_map]
  rfl

theorem nodup_map_pair_clauses (map : FilterMap) : (map.clauses.map FilterClause.pair).Nodup := by
  rw [List.Nodup, List.pairwise_map]
  refine (ascending_clauses map).imp fun {a b} hab hpair => ?_
  obtain ⟨hfield, hoperator⟩ := Prod.mk.inj hpair
  rcases hab with hlt | ⟨-, hlt⟩
  · exact String.lt_irrefl _ (hfield ▸ hlt)
  · exact String.lt_irrefl _ (hoperator ▸ hlt)

theorem mem_map_pair_clauses_iff {map : FilterMap} {field operator : String} :
    (field, operator) ∈ map.clauses.map FilterClause.pair ↔
      ∃ value, map.value? field operator = some value := by
  rw [List.mem_map]
  constructor
  · rintro ⟨c, hc, hpair⟩
    cases hpair
    exact ⟨c.value, mem_clauses_iff.mp hc⟩
  · rintro ⟨value, hvalue⟩
    exact ⟨⟨field, operator, value⟩, mem_clauses_iff.mpr hvalue, rfl⟩

/-- There is one entry for each pair that occurs. -/
theorem entryCount_ofClauses (clauses : List FilterClause) :
    (ofClauses clauses).entryCount = (clauses.map FilterClause.pair).dedup.length := by
  have hperm : ((ofClauses clauses).clauses.map FilterClause.pair).Perm
      (clauses.map FilterClause.pair).dedup := by
    rw [List.perm_ext_iff_of_nodup (nodup_map_pair_clauses _) (List.nodup_dedup _)]
    rintro ⟨field, operator⟩
    rw [mem_map_pair_clauses_iff, exists_value?_ofClauses_iff, List.mem_dedup]
  rw [entryCount_eq_length, ← hperm.length_eq, List.length_map]

theorem entryCount_lt_iff (clauses : List FilterClause) :
    (ofClauses clauses).entryCount < clauses.length ↔
      ¬ (clauses.map FilterClause.pair).Nodup := by
  have hsublist := List.dedup_sublist (clauses.map FilterClause.pair)
  have hle := hsublist.length_le
  have hlength : (clauses.map FilterClause.pair).length = clauses.length := List.length_map _
  rw [entryCount_ofClauses, ← hlength]
  constructor
  · intro hlt hnodup
    rw [List.dedup_eq_self.mpr hnodup] at hlt
    omega
  · intro hshared
    by_contra hnot
    exact hshared (List.dedup_eq_self.mp (hsublist.eq_of_length (by omega)))

/-! ### The warning -/

/-- Two clauses of a list have the same field and the same operator. -/
def HasCollision (clauses : List FilterClause) : Prop :=
  ∃ (i j : Nat) (c d : FilterClause),
    i < j ∧ clauses[i]? = some c ∧ clauses[j]? = some d ∧ c.pair = d.pair

theorem hasCollision_iff {clauses : List FilterClause} :
    HasCollision clauses ↔ ¬ (clauses.map FilterClause.pair).Nodup := by
  rw [List.Nodup, List.pairwise_map, List.pairwise_iff_getElem]
  constructor
  · rintro ⟨i, j, c, d, hij, hi, hj, hpair⟩ hdistinct
    obtain ⟨hi', rfl⟩ := List.getElem?_eq_some_iff.mp hi
    obtain ⟨hj', rfl⟩ := List.getElem?_eq_some_iff.mp hj
    exact hdistinct i j hi' hj' hij hpair
  · intro hshared
    push Not at hshared
    obtain ⟨i, j, hi, hj, hij, hpair⟩ := hshared
    exact ⟨i, j, _, _, hij, List.getElem?_eq_getElem hi, List.getElem?_eq_getElem hj, hpair⟩

/-- Overwritten clauses are reported below the level of a warning, so the only warning is the
    one about their number. -/
theorem exists_warning_iff (clauses : List FilterClause) :
    (∃ r ∈ Trace.filtersCompiled clauses, r.level = .warn) ↔ HasCollision clauses := by
  rw [hasCollision_iff, ← entryCount_lt_iff, Trace.filtersCompiled]
  constructor
  · rintro ⟨r, hr, hlevel⟩
    rcases List.mem_append.mp hr with hoverwritten | hwarning
    · obtain ⟨c, -, rfl⟩ := List.mem_map.mp hoverwritten
      cases hlevel
    · by_contra hkept
      rw [if_neg hkept] at hwarning
      cases hwarning
  · intro hkept
    rw [if_pos hkept]
    exact ⟨_, List.mem_append_right _ (List.mem_singleton_self _), rfl⟩

/-! ### The map of a clause list -/

/-- What the map of a clause list holds. -/
structure Grouped (clauses : List FilterClause) (map : FilterMap) : Prop where
  /-- A value is that of the last clause of its pair. -/
  value_iff : ∀ field operator value,
    map.value? field operator = some value ↔ IsLast clauses ⟨field, operator, value⟩
  /-- There is a value for the pairs that occur and for no other. -/
  held_iff : ∀ field operator, (∃ value, map.value? field operator = some value) ↔
    (field, operator) ∈ clauses.map FilterClause.pair
  noBareField : map.NoBareField
  /-- The entries are listed by the last clauses, in code point order. -/
  mem_clauses_iff : ∀ c, c ∈ map.clauses ↔ IsLast clauses c
  ascending : map.clauses.Pairwise FilterClause.Precedes
  again : ofClauses map.clauses = map
  entryCount : map.entryCount = (clauses.map FilterClause.pair).dedup.length

theorem grouped (clauses : List FilterClause) : Grouped clauses (ofClauses clauses) where
  value_iff _ _ _ := value?_ofClauses_eq_some_iff
  held_iff _ _ := exists_value?_ofClauses_iff
  noBareField := noBareField_ofClauses clauses
  mem_clauses_iff c := by
    rw [FilterMap.mem_clauses_iff, value?_ofClauses_eq_some_iff]
  ascending := ascending_clauses _
  again := by
    rw [ofClauses_clauses, (noBareField_ofClauses clauses).withoutBare_eq]
  entryCount := entryCount_ofClauses clauses

/-- The map of a clause list holds the last clause of every pair and nothing else, also when
    the clauses of different pairs change places. Compiling a text with those clauses gives
    that map, and warns just if two of the clauses collide. -/
theorem grouped_ofClauses (clauses : List FilterClause) :
    Grouped clauses (ofClauses clauses) ∧
      (∀ other, Reordered clauses other → ofClauses other = ofClauses clauses) ∧
      ∀ text, Command.filterClauses text = .ok clauses →
        Command.compileFilters text = .ok (ofClauses clauses) ∧
          ((∃ r ∈ Trace.compileFilters text, r.level = .warn) ↔ HasCollision clauses) := by
  refine ⟨grouped clauses, fun other hother => ofClauses_eq_of_reordered hother, ?_⟩
  intro text htext
  constructor
  · rw [Command.compileFilters, htext]
    rfl
  · rw [Trace.compileFilters, htext]
    exact exists_warning_iff clauses

/-- A clause of another pair may stand first or between two that collide, and the text of the
    colliding clauses is compiled with a warning. -/
theorem grouped_ofClauses_moved :
    let clauses : List FilterClause :=
      [⟨"status", "is", .string "500"⟩, ⟨"host", "is", .null⟩, ⟨"status", "is", .string "503"⟩]
    let other : List FilterClause :=
      [⟨"host", "is", .null⟩, ⟨"status", "is", .string "500"⟩, ⟨"status", "is", .string "503"⟩]
    let text := "[[\"status\", \"is\", \"500\"], [\"host\", \"is\", null], [\"status\", \"is\", 1]]"
    (Reordered clauses other ∧ ofClauses other = ofClauses clauses) ∧
      (∃ read, Command.filterClauses text = .ok read ∧ HasCollision read) ∧
        ∃ r ∈ Trace.compileFilters text, r.level = .warn := by
  intro clauses other text
  have hother : Reordered clauses other := by
    intro field operator
    by_cases hstatus : "status" = field
    · subst hstatus
      simp [clauses, other, List.filter_cons]
    · simp [clauses, other, List.filter_cons, hstatus]
  have hpairs : (Command.filterClauses text).toOption.map (·.map FilterClause.pair) =
      some [("status", "is"), ("host", "is"), ("status", "is")] := by
    decide +kernel
  obtain ⟨read, hread, hpairs⟩ := Option.map_eq_some_iff.mp hpairs
  have hread := Outcome.toOption_eq_some_iff.mp hread
  have hcollision : HasCollision read := by
    rw [hasCollision_iff, hpairs]
    decide
  exact ⟨⟨hother, (grouped_ofClauses clauses).2.1 other hother⟩, ⟨read, hread, hcollision⟩,
    (((grouped_ofClauses read).2.2 text hread).2).mpr hcollision⟩

end FilterMap

end TriggerCompose
