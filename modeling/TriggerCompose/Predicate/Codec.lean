import TriggerCompose.Json.Record
import TriggerCompose.Predicate.Parser

/-!
# Predicates as JSON

## Main definitions

* `Predicate.ofDocument?`, `Predicate.toJson`.
-/

namespace TriggerCompose.Predicate

open Json (Document Record)

/-- A predicate; all three fields have to be there. -/
def ofDocument? (document : Document) : Option Predicate := do
  let record ← Record.ofDocument? ["field", "operator", "value"] document
  let field ← record.required "field" Document.string?
  let operator ← record.required "operator" (Document.name? Operator.names)
  let value ← record.required "value" Document.string?
  return { field, operator, value }

/-- The JSON of a predicate. -/
def toJson (p : Predicate) : Json :=
  .object [("field", .string p.field), ("operator", .string p.operator.name),
    ("value", .string p.value)]

end TriggerCompose.Predicate
