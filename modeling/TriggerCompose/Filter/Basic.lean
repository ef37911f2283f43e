import TriggerCompose.Json.Value
import TriggerCompose.SortedMap

/-!
# Filter maps and filter clauses

A filter map gives each field a map from operators to values. The same content as
a flat list has one clause for every pair of a field and an operator.

## Main definitions

* `FilterMap`: fields to operators to values, both levels sorted by key.
* `FilterClause`: one entry of a filter map.
* `FilterMap.clauses`: the entries of a map, in order.
* `FilterMap.ofClauses`: the map of a clause list, where the last clause of a pair
  stands.
* `FilterMap.overwrites`: the clauses that replace an earlier one.
-/

namespace TriggerCompose

/-- For each field, a map from operators to values. -/
abbrev FilterMap := SortedMap (SortedMap Json)

/-- One entry of a filter map. -/
structure FilterClause where
  field : String
  operator : String
  value : Json
  deriving Inhabited

namespace FilterMap

/-- The entries of a filter map in ascending order of field and operator. -/
def clauses (map : FilterMap) : List FilterClause :=
  map.entries.flatMap fun (field, operators) =>
    operators.entries.map fun (operator, value) => { field, operator, value }

/-- The value that a map holds for a field and an operator. -/
def value? (map : FilterMap) (field operator : String) : Option Json :=
  (map.get? field).bind (·.get? operator)

/-- A map with the entry of one clause added or replaced. -/
def insertClause (map : FilterMap) (c : FilterClause) : FilterMap :=
  map.insert c.field (((map.get? c.field).getD .empty).insert c.operator c.value)

/-- The map of a clause list. Of two clauses with one field and one operator, the
    later stands. -/
def ofClauses (clauses : List FilterClause) : FilterMap :=
  clauses.foldl insertClause .empty

/-- The number of entries of a map. -/
def entryCount (map : FilterMap) : Nat :=
  map.entries.foldl (fun count (_, operators) => count + operators.size) 0

/-- The clauses of a list that replace an entry which is already in the map, in
    order, when the list is put into the map. -/
def overwritesFrom (map : FilterMap) : List FilterClause → List FilterClause
  | [] => []
  | c :: rest =>
    let later := overwritesFrom (map.insertClause c) rest
    if (map.value? c.field c.operator).isSome then c :: later else later

/-- The clauses of a list that replace an earlier clause of the same pair. -/
def overwrites (clauses : List FilterClause) : List FilterClause :=
  overwritesFrom .empty clauses

end FilterMap

end TriggerCompose
