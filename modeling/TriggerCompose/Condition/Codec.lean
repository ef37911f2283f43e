import TriggerCompose.Condition.Selector
import TriggerCompose.Json.Record

/-!
# Conditions as JSON

How clauses, selectors and forms stand in JSON documents.

## Main definitions

* `Condition.Clause.ofDocument?`, `Condition.Clause.toJson`.
* `Condition.Selector.ofDocument?`, `Condition.Selector.toJson`.
* `Condition.Form.toJson`.
* `Condition.clauseList?`: the clauses of a clause list or of a form.
-/

namespace TriggerCompose.Condition

open Json (Document Record)

/-- The names of the connectors. -/
def Connector.names : List (String × Connector) :=
  [("AND", .and), ("OR", .or)]

/-- The names of the comparisons. -/
def Comparison.names : List (String × Comparison) :=
  [("ABOVE", .above), ("BELOW", .below), ("EXACTLY", .exactly)]

/-- A threshold: any number, or a string. -/
def Threshold.ofDocument? : Document → Option Threshold
  | .number value? => value?.map fun n => .number n.double
  | .string value? => value?.map .text
  | _ => none

/-- The JSON of a threshold. -/
def Threshold.toJson : Threshold → Json
  | number x => Json.ofDouble x
  | text s => .string s

/-- A clause. Every part may be absent, and all but the field may be `null`. -/
def Clause.ofDocument? (document : Document) : Option Clause := do
  let record ←
    Record.ofDocument? ["booleanConnector", "field", "operator", "threshold"] document
  let connector? ← record.nullable "booleanConnector" (Document.name? Connector.names)
  let field ← record.optional "field" Document.string? ""
  let comparison? ← record.nullable "operator" (Document.name? Comparison.names)
  let threshold? ← record.nullable "threshold" Threshold.ofDocument?
  return { connector?, field, comparison?, threshold? }

/-- The JSON of a clause; an absent connector is left out. -/
def Clause.toJson (c : Clause) : Json :=
  .object <|
    (match c.connector? with
      | some connector => [("booleanConnector", Json.string connector.name)]
      | none => []) ++
    [("field", .string c.field),
      ("operator", Json.ofOption (fun o => .string o.name) c.comparison?),
      ("threshold", Json.ofOption Threshold.toJson c.threshold?)]

/-- A clause list on its own, or as the member `conditions` of an object. Everything
    else in the document has to be readable too. -/
def clauseList? (document : Document) : Option (List Clause) := do
  let _ ← document.value? Document.maxDepth
  match document with
  | .array _ => document.list? Clause.ofDocument?
  | .object _ =>
    (← Record.ofDocument? ["conditions"] document).required "conditions"
      (Document.list? Clause.ofDocument?)
  | _ => none

/-- A script; without a language it is in the default one. -/
def Script.ofDocument? (document : Document) : Option Script := do
  let record ← Record.ofDocument? ["source", "lang"] document
  let source ← record.required "source" Document.string?
  let language ← record.optional "lang" Document.string? Script.defaultLanguage
  return { source, language }

/-- The JSON of a script. -/
def Script.toJson (s : Script) : Json :=
  .object [("source", .string s.source), ("lang", .string s.language)]

/-- A selector; only the script has to be there. -/
def Selector.ofDocument? (document : Document) : Option Selector := do
  let record ←
    Record.ofDocument? ["buckets_path", "parent_bucket_path", "script", "gap_policy"] document
  let bucketsPath ← record.optional "buckets_path" (Document.map? Document.string?) .empty
  let parentBucketPath ← record.optional "parent_bucket_path" Document.string? ""
  let script ← record.required "script" Script.ofDocument?
  let gapPolicy? ← record.nullable "gap_policy" Document.string?
  return { bucketsPath, parentBucketPath, script, gapPolicy? }

/-- The members that selectors and forms share; an absent gap policy is left out. -/
def sharedMembers (bucketsPath : SortedMap String) (parentBucketPath : String) (script : Script)
    (gapPolicy? : Option String) : List (String × Json) :=
  [("buckets_path", .object (bucketsPath.entries.map fun (key, path) => (key, .string path))),
    ("parent_bucket_path", .string parentBucketPath),
    ("script", script.toJson)] ++
  match gapPolicy? with
  | some policy => [("gap_policy", .string policy)]
  | none => []

/-- The JSON of a selector. -/
def Selector.toJson (s : Selector) : Json :=
  .object (sharedMembers s.bucketsPath s.parentBucketPath s.script s.gapPolicy?)

/-- The JSON of a form: its clauses before what it shares with the selector. -/
def Form.toJson (f : Form) : Json :=
  .object <|
    ("conditions", .array (f.clauses.map Clause.toJson)) ::
      sharedMembers f.bucketsPath f.parentBucketPath f.script f.gapPolicy?

end TriggerCompose.Condition
