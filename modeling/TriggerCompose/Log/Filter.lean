import TriggerCompose.Log.Record
import TriggerCompose.Number.Word
import TriggerCompose.Text.Blank
import TriggerCompose.Text.Search
import TriggerCompose.Text.Word

/-!
# Log filters

Which records are logged. A filter is a list of directives, each of which sets a level
for the targets that start with a given text. Of the directives that a record meets,
the most specific one decides.

## Main definitions

* `Log.Threshold`: a level, or none at all.
* `Log.Directive`: a threshold and what it applies to.
* `Log.Directive.parse`: the directive of a text.
* `Log.Filter.parse`: the filter of a list of directives.
* `Log.Filter.passes`: a record is logged.
-/

namespace TriggerCompose.Log

/-- The least important level that is logged, or nothing at all. -/
inductive Threshold where
  | off
  | upTo (level : Level)
  deriving DecidableEq, Repr

namespace Threshold

/-- The place of a threshold in the order of thresholds, the strictest first. -/
def rank : Threshold → Nat
  | off => 0
  | upTo level => level.rank

/-- All thresholds, the strictest first. -/
def all : List Threshold :=
  [off, upTo .error, upTo .warn, upTo .info, upTo .debug, upTo .trace]

/-- The name of a threshold. -/
def name : Threshold → String
  | off => "off"
  | upTo level => Text.lowerAscii level.name

/-- The threshold of a text: a rank, or a name in any ASCII case. -/
def ofText? (text : List Char) : Option Threshold :=
  ((Number.unsigned? text).bind fun n => all.find? (·.rank == n.toNat)).or
    (all.find? (·.name.toList == text.map Char.toLower))

end Threshold

/-- Why a text is no directive. -/
inductive DirectiveFault where
  | level
  | shape
  deriving DecidableEq, Repr

/-- What is said of a text that is no directive. -/
def DirectiveFault.message : DirectiveFault → String
  | level =>
    "error parsing level filter: expected one of \"off\", \"error\", \"warn\", \"info\", " ++
      "\"debug\", \"trace\", or a number 0-5"
  | shape => "invalid filter directive"

/-- A directive: the threshold, the start of the targets that it applies to, and the
    fields that a record has to have. A directive that asks for more than a record can
    show by itself applies to none. -/
structure Directive where
  target? : Option (List Char)
  fields : List String
  applies : Bool
  threshold : Threshold
  deriving DecidableEq, Repr

namespace Directive

/-- A directive for all targets. -/
def general (threshold : Threshold) : Directive where
  target? := none
  fields := []
  applies := true
  threshold := threshold

/-- A directive for the targets with a given start. -/
def ofTarget (target : List Char) (threshold : Threshold) : Directive where
  target? := some target
  fields := []
  applies := true
  threshold := threshold

/-- A part of a text from one position up to another. -/
def slice (text : List Char) (start stop : Nat) : List Char :=
  (text.take stop).drop start

/-- The threshold after an equals sign; without a text, everything. -/
def thresholdAfter (text : List Char) : Except DirectiveFault Threshold :=
  if text.isEmpty then .ok (.upTo .trace)
  else
    match Threshold.ofText? text with
    | some threshold => .ok threshold
    | none => .error .level

/-- What follows the bracketed part of a directive: nothing, or an equals sign and a
    threshold. `position` is where it starts in `text`. -/
def afterBracket (text : List Char) (position : Nat) :
    List Char → Except DirectiveFault Threshold
  | [] => .ok (.upTo .trace)
  | '=' :: _ => thresholdAfter (text.drop (position + 1))
  | _ => .error .shape

/-- The bracketed part of a directive, which starts at `position`, and what follows it:
    a span name, or the name of a field in braces. Only a bare field name is something
    that a record shows by itself. -/
def bracketed (text : List Char) (target? : Option (List Char)) (position : Nat)
    (rest : List Char) : Except DirectiveFault Directive :=
  let span := rest.takeWhile fun c => c != ']' && c != '\x7b'
  let stop := position + span.length
  match rest.drop span.length with
  | ']' :: rest => do
    let threshold ← afterBracket text (stop + 1) rest
    return { target?, fields := [], applies := false, threshold }
  | '\x7b' :: rest =>
    let inner := rest.takeWhile (· != '\x7d')
    let field := slice text (stop + 1) (stop + 1 + inner.length)
    match rest.drop inner.length with
    | '\x7d' :: ']' :: rest => do
      if field.isEmpty then .error .shape
      else
        let threshold ← afterBracket text (stop + 1 + inner.length + 2) rest
        let applies := (slice text position stop).isEmpty && ! field.contains '='
        return { target?, fields := [String.ofList field], applies, threshold }
    | _ => .error .shape
  | _ => .error .shape

/-- A character that a target may start with. -/
def startsTarget (c : Char) : Bool :=
  Text.isWord c || c == '-' || c == ':'

/-- The directive of a text: a threshold alone, a target with or without a threshold,
    or either with a bracketed part. Its shape is read off the trimmed text, and the
    parts are then cut out of the text as it stands. -/
def parse (text : List Char) : Except DirectiveFault Directive :=
  match Text.trim text with
  | [] => .error .shape
  | '[' :: rest => bracketed text none 1 rest
  | first :: rest =>
    if ! startsTarget first then .error .shape
    else
      let stop := ((first :: rest).takeWhile fun c => c != '=' && c != '[').length
      let target := slice text 0 stop
      match (first :: rest).drop stop with
      | '=' :: _ => do return ofTarget target (← thresholdAfter (text.drop (stop + 1)))
      | _ :: rest => bracketed text (some target) (stop + 1) rest
      | [] =>
        match Threshold.ofText? text with
        | some threshold => .ok (general threshold)
        | none => .ok (ofTarget text (.upTo .trace))

/-- A record meets a directive. -/
def meets (d : Directive) (r : Record) : Bool :=
  d.applies && d.target?.all (·.isPrefixOf r.target.name.toList) && d.fields.all r.names.contains

/-- How specific a directive is: a longer target first, then more fields. -/
def specificity (d : Directive) : Nat × Nat :=
  ((d.target?.map (·.length + 1)).getD 0, d.fields.length)

/-- One directive is at least as specific as another. -/
def isAsSpecific (d e : Directive) : Bool :=
  e.specificity.1 < d.specificity.1 ||
    (e.specificity.1 == d.specificity.1 && e.specificity.2 ≤ d.specificity.2)

end Directive

/-- A filter: directives, of which the later one counts if two are equally specific. -/
structure Filter where
  directives : List Directive
  deriving DecidableEq, Repr

namespace Filter

/-- The filter of directives with commas between them; empty ones are passed over. -/
def parse (text : String) : Except DirectiveFault Filter := do
  let pieces := (text.toList.splitOnP (· == ',')).filter (! ·.isEmpty)
  return { directives := ← pieces.mapM Directive.parse }

/-- The more specific of two directives, the later one if both are alike. -/
def moreSpecific (best? : Option Directive) (d : Directive) : Option Directive :=
  match best? with
  | some best => if d.isAsSpecific best then some d else some best
  | none => some d

/-- The directive that decides on a record. -/
def deciding? (filter : Filter) (r : Record) : Option Directive :=
  (filter.directives.filter (·.meets r)).foldl moreSpecific none

/-- A record is logged: the directive that decides on it lets its level pass. -/
def passes (filter : Filter) (r : Record) : Bool :=
  (filter.deciding? r).any fun d => r.level.rank ≤ d.threshold.rank

end Filter

end TriggerCompose.Log
