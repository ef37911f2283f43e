import TriggerCompose.Cli.Command
import TriggerCompose.Log.Record

/-!
# Traces of commands

What the log says about a run of a command, as a function of what the command works
on. A command that fails has said only what came before the failure.

## Main definitions

* `Trace.compile`, `Trace.decompile`, `Trace.compileFilters`, `Trace.predicate`,
  `Trace.query`, `Trace.normalize`: the records of the commands.
-/

namespace TriggerCompose.Trace

open Log (Record)

/-- The record of a configuration that was read. -/
def configuration (path : String) : Record :=
  .ofCommand .debug .program "conf" "configuration loaded" [("path", .text path)]

/-- The records of a compiled clause list. -/
def compiled (clauses : List Condition.Clause) (selector : Condition.Selector) : List Record :=
  [.part .debug .conditions <|
      s!"built bucket selector: {clauses.length} clause(s), " ++
        s!"{selector.bucketsPath.size} bucket path(s)",
    .ofCommand .info .compile "lang" "condition compiled"
      [("clauses", .number clauses.length), ("source", .text selector.script.source)]]

/-- The records of compiling an input text. -/
def compile (settings : Settings) (text : String) : List Record :=
  match Command.clauses text, Command.compile settings text with
  | .ok clauses, .ok selector => compiled clauses selector
  | _, _ => []

/-- The records of decompiling an input text. -/
def decompile (settings : Settings) (text : String) : List Record :=
  match Command.decompile settings text with
  | .ok form =>
    [.part .debug .conditions s!"decompiled {form.clauses.length} clause(s) from script",
      .ofCommand .debug .decompile "lang" "bucket selector decompiled"
        [("clauses", .number form.clauses.length)]]
  | .error _ => []

/-- The record of a filter clause that replaces an earlier one. -/
def overwritten (c : FilterClause) : Record :=
  .part .debug .filters s!"filter {c.field}.{c.operator} overwritten by a later clause"

/-- The records of a filter clause list and its map. There is a warning if the map has
    fewer entries than the list has clauses. -/
def filtersCompiled (clauses : List FilterClause) : List Record :=
  let kept := (FilterMap.ofClauses clauses).entryCount
  (FilterMap.overwrites clauses).map overwritten ++
    if kept < clauses.length then
      [.ofCommand .warn .filterCommands "lang" "colliding filter clauses overwritten"
        [("clauses", .number clauses.length), ("kept", .number kept)]]
    else []

/-- The records of compiling the filter clauses of an input text. -/
def compileFilters (text : String) : List Record :=
  match Command.filterClauses text with
  | .ok clauses => filtersCompiled clauses
  | .error _ => []

/-- The record of the operator that was detected in a fragment. A negation is told by its
    opening alone, and nothing is said about it. -/
def detected (fragment : String) : List Record :=
  match Predicate.Operator.detect fragment.toList with
  | .isNot => []
  | operator =>
    [.part .debug .predicates s!"predicate {Text.quoted fragment} detected as {operator.name}"]

/-- The records of parsing a fragment. -/
def predicate (fragment : String) : List Record :=
  detected fragment ++
    match Command.parsePredicate fragment with
    | .ok p =>
      [.ofCommand .debug .predicate "lang" "predicate parsed" [("operator", .text p.operator.name)]]
    | .error _ => []

/-- The records of a query. -/
def queryBuilt (q : Preview.Query) : List Record :=
  [.part .debug .queries <|
      s!"histogram query: field={q.timestampField} synthesized={q.synthesized} " ++
        s!"aggregated={q.aggregated}",
    .ofCommand .info .query "preview" "histogram query built"
      [("field", .text q.timestampField), ("synthesized", .flag q.synthesized),
        ("aggregated", .flag q.aggregated)]]

/-- The records of building a query. -/
def query (settings : Settings) (base : String) (field? : Option String) : List Record :=
  match Command.query settings base field? with
  | .ok q => queryBuilt q
  | .error _ => []

/-- The name of a column. -/
def columnName (schema : List Preview.Column) (index : Nat) : String :=
  (schema[index]?.map (·.name)).getD ""

/-- The records of reading the buckets of a table. Nothing is said about missing columns
    where there are no rows. -/
def bucketsRead (table : Preview.Table) (candidates : List String) : List Record :=
  match Preview.Layout.ofSchema? table.schema candidates with
  | some layout =>
    let dropped := table.rows.length - (table.rows.filterMap layout.bucket?).length
    .part .debug .results
        (s!"histogram columns: key={columnName table.schema layout.key} " ++
          s!"count={columnName table.schema layout.count}") ::
      if dropped = 0 then []
      else [.part .warn .results s!"dropped {dropped} row(s) with an unparseable bucket key"]
  | none =>
    if table.rows.isEmpty then []
    else
      let names := ", ".intercalate (table.schema.map fun c => Text.quoted c.name)
      [.part .debug .results s!"no key/count column pair in schema [{names}]"]

/-- The record of a synthesized series, if there is one. -/
def synthesized (settings : Preview.Settings) (parsed : Preview.Series) : List Record :=
  if Preview.isDense settings parsed then []
  else
    [.part .debug .pipeline <|
      s!"synthesizing {settings.syntheticBuckets.toNat} buckets for total {parsed.total.toNat} " ++
        s!"({parsed.buckets.length} parsed bucket(s))"]

/-- The records of normalizing the table of an input text. -/
def normalize (settings : Settings) (synthesize : Bool) (now : Int64) (text : String) :
    List Record :=
  match Command.table text, Command.normalize settings synthesize now text with
  | .ok table, .ok series =>
    bucketsRead table settings.preview.timestampCandidates ++
      (if synthesize then synthesized settings.preview (Preview.parse settings.preview table)
        else []) ++
      [.ofCommand .info .normalize "preview" "query result normalized"
        [("rows", .number table.rows.length), ("buckets", .number series.buckets.length),
          ("total", .number series.total.toNat)]]
  | _, _ => []

end TriggerCompose.Trace
