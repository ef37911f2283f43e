import TriggerCompose.Filter.Basic
import TriggerCompose.Json.Record

/-!
# Filters as JSON

## Main definitions

* `FilterMap.ofDocument?`, `FilterMap.toJson`.
* `FilterClause.ofDocument?`, `FilterClause.toJson`.
-/

namespace TriggerCompose

open Json (Document Record)

/-- How many containers may be nested in the value of a filter: what is left of the
    limit for a text inside the two levels around it. -/
def FilterClause.valueDepth : Nat :=
  Document.maxDepth - 2

namespace FilterMap

/-- A filter map; `null` is an absent one. -/
def ofDocument? : Document → Option (Option FilterMap) :=
  Document.nullable? (Document.map? (Document.map? (Document.value? FilterClause.valueDepth)))

/-- The JSON of a filter map. -/
def toJson (map : FilterMap) : Json :=
  .object (map.entries.map fun (field, operators) => (field, .object operators.entries))

end FilterMap

namespace FilterClause

/-- A filter clause; all three members have to be there. -/
def ofDocument? (document : Document) : Option FilterClause := do
  let record ← Record.ofDocument? ["fieldName", "operator", "fieldValue"] document
  let field ← record.required "fieldName" Document.string?
  let operator ← record.required "operator" Document.string?
  let value ← record.required "fieldValue" (Document.value? valueDepth)
  return { field, operator, value }

/-- The JSON of a filter clause. -/
def toJson (c : FilterClause) : Json :=
  .object [("fieldName", .string c.field), ("operator", .string c.operator),
    ("fieldValue", c.value)]

end FilterClause

end TriggerCompose
