/-!
# Targets of log records

The parts of the program that log, and the names by which filters know them.

## Main definitions

* `Log.Target`: the parts.
* `Log.Target.name`: their names.
-/

namespace TriggerCompose.Log

/-- A part of the program that logs: the program itself, one of its commands, or one of
    the parts that commands are built from. -/
inductive Target where
  | program
  | compile
  | decompile
  | filterCommands
  | predicate
  | query
  | normalize
  | conditions
  | filters
  | predicates
  | queries
  | results
  | pipeline
  deriving DecidableEq, Repr

/-- The name of a part. Names of related parts start alike, so that one directive can
    name them all. -/
def Target.name : Target → String
  | program => "trigger_compose"
  | compile => "tc_cli::cmd_compile"
  | decompile => "tc_cli::cmd_decompile"
  | filterCommands => "tc_cli::cmd_filters"
  | predicate => "tc_cli::cmd_predicate"
  | query => "tc_cli::cmd_query"
  | normalize => "tc_cli::cmd_normalize"
  | conditions => "tc_lang::condition"
  | filters => "tc_lang::filter"
  | predicates => "tc_lang::predicate"
  | queries => "tc_preview::query"
  | results => "tc_preview::result"
  | pipeline => "tc_preview::pipeline"

end TriggerCompose.Log
