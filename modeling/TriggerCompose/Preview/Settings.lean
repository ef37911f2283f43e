import TriggerCompose.Json.Record
import TriggerCompose.Settings.Duration
import TriggerCompose.Text.Blank
import TriggerCompose.Toml.Value

/-!
# The settings of previews

What a preview takes besides a query or its result, and what the entries have to
satisfy in a configuration.

## Main definitions

* `Preview.Settings`: the settings.
* `Preview.Settings.ofToml?`, `Preview.Settings.ofDocument?`: the settings in the two
  document formats.
* `Preview.Settings.Fault`: a requirement that settings violate.
* `Preview.Settings.fault?`: the first such requirement.
-/

namespace TriggerCompose.Preview

/-- The settings of previews: the width of a bucket, the field that stands in for a
    missing timestamp, the fields that may be timestamps, the number of buckets of a
    synthesized series, and the least number of buckets of a series that is kept. -/
structure Settings where
  span : Duration
  syntheticField : String
  timestampCandidates : List String
  syntheticBuckets : UInt64
  minBuckets : UInt64
  deriving DecidableEq, Repr

namespace Settings

/-- The fields that are taken for timestamps where none are set, the likeliest
    first. -/
def standardCandidates : List String :=
  ["@timestamp", "timestamp", "time", "event_time", "eventTime", "created_at", "date", "datetime"]

/-- The settings that hold where none are set. -/
def standard : Settings where
  span := ⟨3600⟩
  syntheticField := "__ppl_ts"
  timestampCandidates := standardCandidates
  syntheticBuckets := 12
  minBuckets := 2

instance : Inhabited Settings := ⟨standard⟩

/-- The names of the entries, in their order. -/
def names : List String :=
  ["span", "synthetic_field", "timestamp_candidates", "synthetic_buckets", "min_buckets"]

/-- The duration of a text. -/
def span? (text : String) : Option Duration :=
  (Duration.parse text).toOption

/-- The settings of a table. Other entries are refused. -/
def ofToml? (value : Toml) : Option Settings := do
  let fields ← value.fields? .refused names
  return {
    span := ← Toml.field? fields "span" (fun v => v.string?.bind span?) standard.span
    syntheticField := ← Toml.field? fields "synthetic_field" Toml.string? standard.syntheticField
    timestampCandidates :=
      ← Toml.field? fields "timestamp_candidates" (Toml.list? Toml.string?)
        standard.timestampCandidates
    syntheticBuckets :=
      ← Toml.field? fields "synthetic_buckets" Toml.unsigned? standard.syntheticBuckets
    minBuckets := ← Toml.field? fields "min_buckets" Toml.unsigned? standard.minBuckets }

/-- The settings of a JSON document. Other members are refused. -/
def ofDocument? (document : Json.Document) : Option Settings := do
  let record ← Json.Record.read? .refused names document
  return {
    span := ← record.optional "span" (fun v => v.string?.bind span?) standard.span
    syntheticField :=
      ← record.optional "synthetic_field" Json.Document.string? standard.syntheticField
    timestampCandidates :=
      ← record.optional "timestamp_candidates" (Json.Document.list? Json.Document.string?)
        standard.timestampCandidates
    syntheticBuckets :=
      ← record.optional "synthetic_buckets" Json.Document.uint64? standard.syntheticBuckets
    minBuckets := ← record.optional "min_buckets" Json.Document.uint64? standard.minBuckets }

/-! ### Requirements -/

/-- A requirement that settings violate. -/
inductive Fault where
  | zeroSpan
  | noSyntheticBuckets
  | noMinBuckets
  | syntheticField (field : String)
  | noCandidates
  | blankCandidate (index : Nat)
  | backtickInCandidate (index : Nat)
  deriving DecidableEq, Repr

/-- What is said of a violated requirement. -/
def Fault.message : Fault → String
  | zeroSpan => "preview.span must be greater than zero"
  | noSyntheticBuckets => "preview.synthetic_buckets must be at least 1"
  | noMinBuckets => "preview.min_buckets must be at least 1"
  | syntheticField field =>
    s!"preview.synthetic_field {Text.quoted field} must be an identifier " ++
      "([A-Za-z_][A-Za-z0-9_]*)"
  | noCandidates => "preview.timestamp_candidates must list at least one field"
  | blankCandidate index => s!"preview.timestamp_candidates[{index}] is blank"
  | backtickInCandidate index =>
    s!"preview.timestamp_candidates[{index}] contains a backtick"

/-- The character that quotes field names in queries. -/
def backtick : Char := '\x60'

/-- A string that holds a backtick, and so cannot be quoted as a field name. -/
def hasBacktick (s : String) : Bool :=
  s.toList.contains backtick

/-- A name of ASCII letters, digits and underscores that does not start with a digit. -/
def isIdentifier (name : String) : Bool :=
  match name.toList with
  | [] => false
  | first :: rest =>
    (first.isAlpha || first == '_') && rest.all fun c => c.isAlphanum || c == '_'

/-- The first requirement that the timestamp candidates violate. Blank candidates are
    looked for before candidates with backticks. -/
def candidatesFault? (candidates : List String) : Option Fault :=
  if candidates.isEmpty then some .noCandidates
  else
    ((candidates.findIdx? Text.isBlankText).map .blankCandidate).or
      ((candidates.findIdx? hasBacktick).map .backtickInCandidate)

/-- The first requirement that settings violate. -/
def fault? (s : Settings) : Option Fault :=
  if s.span.isZero then some .zeroSpan
  else if s.syntheticBuckets = 0 then some .noSyntheticBuckets
  else if s.minBuckets = 0 then some .noMinBuckets
  else if ! isIdentifier s.syntheticField then some (.syntheticField s.syntheticField)
  else candidatesFault? s.timestampCandidates

end Settings

end TriggerCompose.Preview
