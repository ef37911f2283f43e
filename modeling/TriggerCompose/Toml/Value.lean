import TriggerCompose.Number.Decimal
import TriggerCompose.SortedMap
import TriggerCompose.UnknownMembers

/-!
# TOML values

The values of the configuration format, and the shapes in which decoders ask for
them.

## Main definitions

* `Toml`: a value.
* `Toml.string?`, `Toml.unsigned?`, `Toml.list?`, `Toml.map?`: plain shapes.
* `Toml.fields?`: the fields of a record.
-/

namespace TriggerCompose

/-- A TOML value. The entries of a table are in the order in which their keys were
    first met. -/
inductive Toml where
  | string (value : String)
  | integer (value : Int)
  | float (value : Double)
  | boolean (value : Bool)
  | dateTime (text : String)
  | array (items : List Toml)
  | table (entries : List (String × Toml))

namespace Toml

instance : Inhabited Toml := ⟨table []⟩

/-- A string. -/
def string? : Toml → Option String
  | string s => some s
  | _ => none

/-- An integer in the range of the unsigned words. -/
def unsigned? : Toml → Option UInt64
  | integer n => if 0 ≤ n ∧ n < UInt64.size then some (UInt64.ofNat n.toNat) else none
  | _ => none

/-- An array whose items all decode. -/
def list? {α : Type} (decode : Toml → Option α) : Toml → Option (List α)
  | array items => items.mapM decode
  | _ => none

/-- A table whose entries all decode. -/
def map? {α : Type} (decode : Toml → Option α) : Toml → Option (SortedMap α)
  | table entries => do
    let entries ← entries.mapM fun (key, value) => do return (key, ← decode value)
    return SortedMap.ofList entries
  | _ => none

/-- One of the listed names, as a string or as a table with that name as its only
    key and nothing in the value. -/
def name? {α : Type} (names : List (String × α)) : Toml → Option α
  | string s => names.lookup s
  | table [(key, table [])] => names.lookup key
  | table [(key, array [])] => names.lookup key
  | _ => none

/-- The fields of a record: the entries of a table, or the items of an array in the
    order of the names. A point in time offers only a field that no record has. -/
def fields? (unknown : UnknownMembers) (names : List String) :
    Toml → Option (List (String × Toml))
  | table entries =>
    if unknown = .refused ∧ entries.any (! names.contains ·.1) then none else some entries
  | array items => some (names.zip items)
  | dateTime _ => if unknown = .refused then none else some []
  | _ => none

/-- A field that may be absent, but has to decode where it is there. -/
def field? {α : Type} (fields : List (String × Toml)) (name : String)
    (decode : Toml → Option α) (absent : α) : Option α :=
  match fields.lookup name with
  | some value => decode value
  | none => some absent

end Toml

end TriggerCompose
