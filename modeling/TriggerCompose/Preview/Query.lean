import TriggerCompose.Failure
import TriggerCompose.Preview.Settings
import TriggerCompose.Text.Search
import TriggerCompose.Text.Word

/-!
# Histogram queries

The query that counts the documents of a base query by time. The field to count by is
given, or found in the text of the base query, or bound to the present time.

## Main definitions

* `Preview.isAggregated`: the query text already counts.
* `Preview.occursDelimited`: a name occurs as a whole in a query text.
* `Preview.findTimestamp?`: the first candidate that does.
* `Preview.fieldName`: a field name as queries write it.
* `Preview.buildQuery`: the query for a base query.
-/

namespace TriggerCompose.Preview

open Settings (hasBacktick backtick)

/-! ### Aggregation -/

/-- A folded text starts with the word `stats`. -/
def startsStats (text : List Char) : Bool :=
  match "stats".toList.isPrefixOf? text with
  | some rest => ! rest.head?.any Text.isWord
  | none => false

/-- A folded text starts with a call of `span`, with any blanks before the
    parenthesis. -/
def startsSpan (text : List Char) : Bool :=
  match "span".toList.isPrefixOf? text with
  | some rest => (Text.trimStart rest).head? == some '('
  | none => false

/-- An aggregation starts somewhere in a folded text, and not inside a word. The flag
    says whether the text follows a character of a word. -/
def hasAggregation : (insideWord : Bool) → List Char → Bool
  | _, [] => false
  | insideWord, c :: rest =>
    (! insideWord && (startsStats (c :: rest) || startsSpan (c :: rest))) ||
      hasAggregation (Text.isWord c) rest

/-- The query text holds the word `stats` or a call of `span`, in any case. -/
def isAggregated (query : List Char) : Bool :=
  hasAggregation false (query.map Text.foldLetter)

/-! ### Timestamp fields -/

/-- A character that continues a name to its right. -/
def continuesName (c : Char) : Bool :=
  c.isAlphanum || c == '_'

/-- A character that a name to its right belongs to. -/
def joinsName (c : Char) : Bool :=
  continuesName c || c == '@' || c == '.'

/-- A text starts with a name that nothing continues. -/
def startsDelimited (name text : List Char) : Bool :=
  match name.isPrefixOf? text with
  | some rest => ! rest.head?.any continuesName
  | none => false

/-- A name occurs in a text, neither joined on its left nor continued on its right. The
    flag says whether the text follows a character that joins. -/
def occursDelimited (name : List Char) : (joined : Bool) → List Char → Bool
  | joined, [] => ! joined && startsDelimited name []
  | joined, c :: rest =>
    (! joined && startsDelimited name (c :: rest)) || occursDelimited name (joinsName c) rest

/-- The first candidate that occurs as a whole in a query text. Where a candidate is
    searched for with a regular expression, in which it stands escaped, the expression is
    taken to compile. That can fail only for its size, and then the candidate is passed
    over. -/
def findTimestamp? (query : List Char) (candidates : List String) : Option String :=
  candidates.find? fun candidate => occursDelimited candidate.toList false query

/-! ### The query -/

/-- A field name that queries write without quotes. -/
def isPlainField (field : String) : Bool :=
  match field.toList with
  | [] => false
  | first :: rest =>
    (first.isAlpha || first == '_') && rest.all fun c => c.isAlphanum || c == '_' || c == '.'

/-- A field name as queries write it: plain, or between backticks. -/
def fieldName (field : String) : String :=
  if isPlainField field then field
  else String.singleton backtick ++ field ++ String.singleton backtick

/-- A histogram query: its text, the field that it counts by, whether that field is bound
    to the present time, and whether the base query already counted. -/
structure Query where
  text : String
  timestampField : String
  synthesized : Bool
  aggregated : Bool
  deriving DecidableEq, Repr, Inhabited

/-- A field that no query can name, because it holds a backtick. -/
structure FieldError where
  field : String
  deriving DecidableEq, Repr

/-- The failure that reports a field. -/
def FieldError.failure (e : FieldError) : Failure where
  reason := .invalidField
  detail := s!"field {Text.quoted e.field} contains a backtick"

/-- The field given for a query, trimmed; a blank one is none. -/
def givenField? (field? : Option String) : Option String :=
  (field?.map Text.trimmed).filter (! ·.isEmpty)

/-- The clause that binds a field to the present time. -/
def bindingClause (field : String) : String :=
  s!" | eval {field} = NOW()"

/-- The clause that counts by a field. -/
def countingClause (field : String) (span : Duration) : String :=
  s!" | stats count() by span({fieldName field}, {span.display})"

/-- The query for a trimmed base query and the field that it counts by. -/
def queryOf (base field : String) (synthesized : Bool) (settings : Settings) : Query :=
  let aggregated := isAggregated base.toList
  { text := base ++ (if synthesized then bindingClause field else "") ++
      (if aggregated then "" else countingClause field settings.span)
    timestampField := field
    synthesized
    aggregated }

/-- The query for a base query and perhaps a field. -/
def buildQuery (base : String) (field? : Option String) (settings : Settings) :
    Except FieldError Query :=
  let base := Text.trimmed base
  match (givenField? field?).or (findTimestamp? base.toList settings.timestampCandidates) with
  | some field =>
    if hasBacktick field then .error { field } else .ok (queryOf base field false settings)
  | none => .ok (queryOf base settings.syntheticField true settings)

namespace Query

/-- The JSON of a query. -/
def toJson (q : Query) : Json :=
  .object [("query", .string q.text), ("timestamp_field", .string q.timestampField),
    ("synthesized", .boolean q.synthesized), ("aggregated", .boolean q.aggregated)]

end Query

end TriggerCompose.Preview
