import TriggerCompose.Json.Document
import TriggerCompose.UnknownMembers

/-!
# Records in JSON documents

How decoders take documents apart. A record is an object with named fields, or an
array that holds the fields in their order. Members of an object that are no field
of the record are passed over unread.

## Main definitions

* `Json.Document.string?`, `Json.Document.list?`, `Json.Document.map?`: plain
  shapes.
* `Json.Document.name?`: one of a fixed list of names.
* `Json.Record`: the fields found in a document, and the ways to ask for one.
-/

namespace TriggerCompose.Json

namespace Document

/-- A string. -/
def string? : Document → Option String
  | string value? => value?
  | _ => none

/-- A signed 64-bit integer. -/
def int64? : Document → Option Int64
  | number value? => value?.bind Json.Number.int64?
  | _ => none

/-- An unsigned 64-bit integer. -/
def uint64? : Document → Option UInt64
  | number value? => value?.bind Json.Number.uint64?
  | _ => none

/-- An array whose items all decode. -/
def list? {α : Type} (decode : Document → Option α) : Document → Option (List α)
  | array items => items.mapM decode
  | _ => none

/-- An object whose members all decode. Of two members with one key the later
    stands, and both have to decode. -/
def map? {α : Type} (decode : Document → Option α) : Document → Option (SortedMap α)
  | object members => do
    let entries ← members.mapM fun (key?, value) => do return (← key?, ← decode value)
    return SortedMap.ofList entries
  | _ => none

/-- Either `null`, which is the absent value, or a document that decodes. -/
def nullable? {α : Type} (decode : Document → Option α) : Document → Option (Option α)
  | null => some none
  | document => (decode document).map some

/-- One of the listed names, as a string or as an object with that name as its
    only member and `null` as the value. -/
def name? {α : Type} (names : List (String × α)) : Document → Option α
  | string value? => value?.bind (names.lookup ·)
  | object [(key?, null)] => key?.bind (names.lookup ·)
  | _ => none

end Document

/-- The fields of a record that a document holds. -/
structure Record where
  fields : List (String × Document)

namespace Record

/-- The members that are fields. A field given twice is an error, and so is an
    unreadable key. -/
def ofMembers? (unknown : UnknownMembers) (names : List String) :
    List (Option String × Document) → Option (List (String × Document))
  | [] => some []
  | (key?, value) :: members => do
    let key ← key?
    let fields ← ofMembers? unknown names members
    if key ∈ names then
      if fields.any (·.1 == key) then none else return (key, value) :: fields
    else if unknown = .refused then none
    else return fields

/-- The record with the fields `names` in a document. An array holds the fields in
    order; it may be shorter, but not longer. -/
def read? (unknown : UnknownMembers) (names : List String) : Document → Option Record
  | .object members => (ofMembers? unknown names members).map Record.mk
  | .array items => if items.length ≤ names.length then some ⟨names.zip items⟩ else none
  | _ => none

/-- The record with the fields `names` in a document that may have other members
    as well. -/
def ofDocument? (names : List String) (document : Document) : Option Record :=
  read? .ignored names document

/-- A field that has to be there. -/
def required {α : Type} (record : Record) (name : String) (decode : Document → Option α) :
    Option α :=
  (record.fields.lookup name).bind decode

/-- A field that may be absent, but has to decode where it is there. -/
def optional {α : Type} (record : Record) (name : String) (decode : Document → Option α)
    (absent : α) : Option α :=
  match record.fields.lookup name with
  | some document => decode document
  | none => some absent

/-- A field that may be absent or `null`. -/
def nullable {α : Type} (record : Record) (name : String) (decode : Document → Option α) :
    Option (Option α) :=
  record.optional name (Document.nullable? decode) none

end Record

end TriggerCompose.Json
