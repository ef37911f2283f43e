import TriggerCompose.Filter.Basic
import TriggerCompose.Proofs.SortedMap

/-!
# Filter maps and their clauses

A filter map is known by the values that it holds, except for the fields that have no
operator. Its clauses are just those values, so grouping them gives the map back without
such fields.

## Main definitions

* `FilterClause.Precedes`: the order of fields and operators.
* `FilterMap.NoBareField`: every field has an operator.
* `FilterMap.withoutBare`: a map without the fields that have no operator.
* `FilterMap.Listed`: what the clauses of a map are like.

## Main statements

* `FilterMap.value?_ofClauses`: what the map of a clause list holds.
* `FilterMap.eq_of_value?`: maps without bare fields that hold the same are equal.
* `FilterMap.listed_clauses`: listing a map and grouping the list.
-/

namespace TriggerCompose

/-- A clause comes before another: its field is smaller, or the field is the same and its
    operator is smaller. -/
def FilterClause.Precedes (a b : FilterClause) : Prop :=
  a.field < b.field ∨ a.field = b.field ∧ a.operator < b.operator

namespace FilterMap

/-! ### Values -/

theorem value?_eq_some_iff {map : FilterMap} {field operator : String} {value : Json} :
    map.value? field operator = some value ↔
      ∃ operators, map.get? field = some operators ∧ operators.get? operator = some value :=
  Option.bind_eq_some_iff

theorem value?_of_get? {map : FilterMap} {field : String} {operators : SortedMap Json}
    (h : map.get? field = some operators) (operator : String) :
    map.value? field operator = operators.get? operator := by
  rw [value?, h, Option.bind_some]

theorem value?_empty (field operator : String) : value? .empty field operator = none :=
  rfl

theorem value?_insertClause (map : FilterMap) (c : FilterClause) (field operator : String) :
    (map.insertClause c).value? field operator =
      if c.field = field ∧ c.operator = operator then some c.value
      else map.value? field operator := by
  rw [value?, insertClause, SortedMap.get?_insert]
  by_cases hfield : field = c.field
  · rw [if_pos hfield, Option.bind_some, SortedMap.get?_insert, hfield]
    by_cases hoperator : operator = c.operator
    · rw [if_pos hoperator, if_pos ⟨rfl, hoperator.symm⟩]
    · rw [if_neg hoperator, if_neg fun h => hoperator h.2.symm, value?]
      cases map.get? c.field with
      | none => rfl
      | some operators => rfl
  · rw [if_neg hfield, if_neg fun h => hfield h.1.symm]
    rfl

/-- The last clause of a list with a field and an operator. -/
def lastClause? (clauses : List FilterClause) (field operator : String) : Option FilterClause :=
  clauses.reverse.find? fun c => c.field = field ∧ c.operator = operator

theorem value?_foldl_insertClause (clauses : List FilterClause) (map : FilterMap)
    (field operator : String) :
    (clauses.foldl insertClause map).value? field operator =
      ((lastClause? clauses field operator).map (·.value)).or (map.value? field operator) := by
  induction clauses generalizing map with
  | nil => rfl
  | cons c clauses ih =>
    rw [List.foldl_cons, ih, value?_insertClause, lastClause?, lastClause?, List.reverse_cons,
      List.find?_append]
    cases clauses.reverse.find? fun c => c.field = field ∧ c.operator = operator with
    | some last => rfl
    | none =>
      by_cases hc : c.field = field ∧ c.operator = operator
      · simp [hc]
      · simp [hc]

/-- Of the clauses with one field and one operator, the last one stands. -/
theorem value?_ofClauses (clauses : List FilterClause) (field operator : String) :
    (ofClauses clauses).value? field operator =
      (lastClause? clauses field operator).map (·.value) := by
  rw [ofClauses, value?_foldl_insertClause, value?_empty, Option.or_none]

/-! ### Fields without operators -/

/-- Every field of a map has an operator. -/
def NoBareField (map : FilterMap) : Prop :=
  ∀ field operators, map.get? field = some operators → operators.entries ≠ []

theorem entries_insert_ne_nil {α : Type} (map : SortedMap α) (key : String) (value : α) :
    (map.insert key value).entries ≠ [] := by
  intro hnil
  have hget := SortedMap.get?_insert map key value key
  rw [if_pos rfl, SortedMap.get?, hnil] at hget
  cases hget

theorem NoBareField.insertClause {map : FilterMap} (h : map.NoBareField) (c : FilterClause) :
    (map.insertClause c).NoBareField := by
  intro field operators hget
  rw [FilterMap.insertClause, SortedMap.get?_insert] at hget
  split at hget
  · cases hget
    exact entries_insert_ne_nil _ _ _
  · exact h field operators hget

theorem NoBareField.foldl_insertClause {map : FilterMap} (h : map.NoBareField)
    (clauses : List FilterClause) : NoBareField (clauses.foldl FilterMap.insertClause map) := by
  induction clauses generalizing map with
  | nil => exact h
  | cons c clauses ih => exact ih (h.insertClause c)

theorem noBareField_ofClauses (clauses : List FilterClause) : (ofClauses clauses).NoBareField := by
  apply NoBareField.foldl_insertClause
  intro field operators hget
  cases hget

theorem NoBareField.exists_value? {map : FilterMap} (h : map.NoBareField) {field : String}
    {operators : SortedMap Json} (hget : map.get? field = some operators) :
    ∃ operator value, map.value? field operator = some value := by
  obtain ⟨⟨operator, value⟩, rest, hcons⟩ := List.exists_cons_of_ne_nil (h field operators hget)
  refine ⟨operator, value, ?_⟩
  rw [value?_of_get? hget, SortedMap.get?_eq_some_iff, hcons]
  exact List.mem_cons_self

/-- Maps without bare fields are known by the values that they hold. -/
theorem eq_of_value? {a b : FilterMap} (ha : a.NoBareField) (hb : b.NoBareField)
    (h : ∀ field operator, a.value? field operator = b.value? field operator) : a = b := by
  apply SortedMap.eq_of_get?
  intro field
  cases hfield : a.get? field with
  | none =>
    cases hfield' : b.get? field with
    | none => rfl
    | some operators =>
      -- A value of the field in `b` would be one in `a`.
      obtain ⟨operator, value, hvalue⟩ := hb.exists_value? hfield'
      rw [← h, value?, hfield] at hvalue
      cases hvalue
  | some operators =>
    obtain ⟨operator, value, hvalue⟩ := ha.exists_value? hfield
    rw [h, value?_eq_some_iff] at hvalue
    obtain ⟨operators', hfield', -⟩ := hvalue
    rw [hfield', Option.some.injEq]
    apply SortedMap.eq_of_get?
    intro operator
    rw [← value?_of_get? hfield, ← value?_of_get? hfield', h]

/-- A map without the fields that have no operator. -/
def withoutBare (map : FilterMap) : FilterMap where
  entries := map.entries.filter fun e => ! e.2.entries.isEmpty
  ascending := map.ascending.filter _

theorem get?_withoutBare_eq_some_iff {map : FilterMap} {field : String}
    {operators : SortedMap Json} :
    map.withoutBare.get? field = some operators ↔
      map.get? field = some operators ∧ operators.entries ≠ [] := by
  rw [SortedMap.get?_eq_some_iff, SortedMap.get?_eq_some_iff, withoutBare, List.mem_filter]
  simp

theorem noBareField_withoutBare (map : FilterMap) : map.withoutBare.NoBareField :=
  fun _ _ hget => (get?_withoutBare_eq_some_iff.mp hget).2

theorem value?_withoutBare (map : FilterMap) (field operator : String) :
    map.withoutBare.value? field operator = map.value? field operator := by
  apply Option.ext
  intro value
  rw [value?_eq_some_iff, value?_eq_some_iff]
  constructor
  · rintro ⟨operators, hget, hvalue⟩
    exact ⟨operators, (get?_withoutBare_eq_some_iff.mp hget).1, hvalue⟩
  · rintro ⟨operators, hget, hvalue⟩
    have hmem := SortedMap.get?_eq_some_iff.mp hvalue
    exact ⟨operators, get?_withoutBare_eq_some_iff.mpr ⟨hget, List.ne_nil_of_mem hmem⟩, hvalue⟩

/-! ### Clauses -/

theorem mem_clauses_iff {map : FilterMap} {c : FilterClause} :
    c ∈ map.clauses ↔ map.value? c.field c.operator = some c.value := by
  rw [clauses, List.mem_flatMap, value?_eq_some_iff]
  constructor
  · rintro ⟨⟨field, operators⟩, hentry, hc⟩
    obtain ⟨⟨operator, value⟩, hpair, rfl⟩ := List.mem_map.mp hc
    exact ⟨operators, SortedMap.get?_eq_some_iff.mpr hentry, SortedMap.get?_eq_some_iff.mpr hpair⟩
  · rintro ⟨operators, hentry, hpair⟩
    exact ⟨(c.field, operators), SortedMap.get?_eq_some_iff.mp hentry,
      List.mem_map.mpr ⟨(c.operator, c.value), SortedMap.get?_eq_some_iff.mp hpair, rfl⟩⟩

theorem ascending_clauses (map : FilterMap) : map.clauses.Pairwise FilterClause.Precedes := by
  rw [clauses, List.pairwise_flatMap]
  constructor
  · rintro ⟨field, operators⟩ -
    rw [List.pairwise_map]
    exact operators.ascending.imp fun hlt => .inr ⟨rfl, hlt⟩
  · refine map.ascending.imp fun hlt a ha b hb => ?_
    obtain ⟨_, -, rfl⟩ := List.mem_map.mp ha
    obtain ⟨_, -, rfl⟩ := List.mem_map.mp hb
    exact .inl hlt

/-- Any clause found for a field and an operator is the one that holds their value. -/
theorem value?_ofClauses_clauses (map : FilterMap) (field operator : String) :
    (ofClauses map.clauses).value? field operator = map.value? field operator := by
  rw [value?_ofClauses]
  cases hlast : lastClause? map.clauses field operator with
  | some c =>
    have hmem : c ∈ map.clauses := List.mem_reverse.mp (List.mem_of_find?_eq_some hlast)
    have hpair : c.field = field ∧ c.operator = operator := by
      simpa using List.find?_some hlast
    rw [← hpair.1, ← hpair.2, mem_clauses_iff.mp hmem, Option.map_some]
  | none =>
    cases hvalue : map.value? field operator with
    | none => rfl
    | some value =>
      have hmem : ⟨field, operator, value⟩ ∈ map.clauses := mem_clauses_iff.mpr hvalue
      have hnot := List.find?_eq_none.mp hlast _ (List.mem_reverse.mpr hmem)
      simp at hnot

/-! ### The round trip -/

theorem ofClauses_clauses (map : FilterMap) : ofClauses map.clauses = map.withoutBare := by
  apply eq_of_value? (noBareField_ofClauses _) (noBareField_withoutBare map)
  intro field operator
  rw [value?_ofClauses_clauses, value?_withoutBare]

theorem NoBareField.withoutBare_eq {map : FilterMap} (h : map.NoBareField) :
    map.withoutBare = map := by
  apply eq_of_value? (noBareField_withoutBare map) h
  exact value?_withoutBare map

/-- What the clause list of a filter map is like. -/
structure Listed (map : FilterMap) (clauses : List FilterClause) : Prop where
  /-- There is a clause for each field and operator, with the value that the map holds. -/
  mem_iff : ∀ c, c ∈ clauses ↔ map.value? c.field c.operator = some c.value
  /-- No field and operator come twice, and the clauses are in code point order. -/
  ascending : clauses.Pairwise FilterClause.Precedes

/-- A filter map is listed with one clause for each of its values, and the list gives it back
    without its bare fields: all of it just if it has none. -/
theorem listed_clauses (map : FilterMap) :
    Listed map map.clauses ∧ ofClauses map.clauses = map.withoutBare ∧
      (ofClauses map.clauses = map ↔ map.NoBareField) := by
  refine ⟨⟨fun _ => mem_clauses_iff, ascending_clauses map⟩, ofClauses_clauses map, ?_⟩
  constructor
  · intro hsame
    rw [← hsame]
    exact noBareField_ofClauses _
  · intro hbare
    rw [ofClauses_clauses, hbare.withoutBare_eq]

end FilterMap

end TriggerCompose
