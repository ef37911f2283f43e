import TriggerCompose.Failure
import TriggerCompose.Json.Printer
import TriggerCompose.Json.Record
import TriggerCompose.Preview.Cell

/-!
# Tables of query results

A query service answers with a table: columns with names, rows of cells, and perhaps
the total number of matches.

## Main definitions

* `Preview.Column`: a name, and a type that may be absent.
* `Preview.Table`: columns, rows and total.
* `Preview.Table.ofJson`: the table of a JSON value, which has to be an object.
* `Preview.Table.ofText`: the table of a JSON text.
* `Preview.Table.Fault`: why there is none.
-/

namespace TriggerCompose.Preview

/-- A column of a table. -/
structure Column where
  name : String
  type? : Option String
  deriving DecidableEq, Repr, Inhabited

/-- A column of a JSON document. -/
def Column.ofDocument? (document : Json.Document) : Option Column := do
  let record ← Json.Record.ofDocument? ["name", "type"] document
  let name ← record.required "name" Json.Document.string?
  let type? ← record.nullable "type" Json.Document.string?
  return { name, type? }

/-- A query result. A row need not have as many cells as there are columns. -/
structure Table where
  schema : List Column
  rows : List (List Json)
  total? : Option UInt64
  deriving Inhabited

namespace Table

/-- The columns of a schema. -/
def schema? : Json → Option (List Column)
  | .array items => items.mapM fun item => Column.ofDocument? (.ofValue item)
  | _ => none

/-- The cells of a row. -/
def row? : Json → Option (List Json)
  | .array cells => some cells
  | _ => none

/-- The rows of a table. -/
def rows? : Json → Option (List (List Json))
  | .array items => items.mapM row?
  | _ => none

/-- A member of a table that may be absent, for which there are no items then. -/
def member? {α : Type} (members : List (String × Json)) (name : String)
    (decode : Json → Option (List α)) : Option (List α) :=
  match members.lookup name with
  | some value => decode value
  | none => some []

/-- The table of the members of an object. A total that gives no count is taken as
    absent. -/
def ofMembers? (members : List (String × Json)) : Option Table := do
  let schema ← member? members "schema" schema?
  let rows ← member? members "datarows" rows?
  return { schema, rows, total? := (members.lookup "total").bind Cell.count? }

/-- Why a value or a text gives no table. -/
inductive Fault where
  | noJson
  | noObject (value : Json)
  | noTable

/-- The failure that reports a fault. -/
def Fault.failure (fault : Fault) : Failure where
  reason := .dataFormat
  detail := match fault with
    | noJson => "query result is not valid JSON"
    | noObject value => s!"query result must be a JSON object, got {value.compact}"
    | noTable => "query result does not match \x7bschema, datarows\x7d"

/-- The table of a value, or why it gives none. -/
def ofJson : Json → Except Fault Table
  | .object members =>
    match ofMembers? members with
    | some table => .ok table
    | none => .error .noTable
  | value => .error (.noObject value)

/-- The table of a JSON text, or why it gives none. -/
def ofText (text : String) : Except Fault Table :=
  match Json.ofText? text with
  | some value => ofJson value
  | none => .error .noJson

end Table

end TriggerCompose.Preview
