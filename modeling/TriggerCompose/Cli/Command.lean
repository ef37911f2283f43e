import TriggerCompose.Condition.Codec
import TriggerCompose.Filter.Codec
import TriggerCompose.Predicate.Codec
import TriggerCompose.Predicate.Printer
import TriggerCompose.Preview.Normalization
import TriggerCompose.Preview.Query
import TriggerCompose.Settings.Basic

/-!
# Commands

What each command makes of its input text. A command decodes the text, applies the
library and gives a value to be printed, or an error.

## Main definitions

* `Command.Error`: why a command fails.
* `Command.compile`, `Command.decompile`: conditions.
* `Command.compileFilters`, `Command.decompileFilters`: filters.
* `Command.parsePredicate`, `Command.renderPredicate`: query predicates.
* `Command.query`, `Command.normalize`: previews.
-/

namespace TriggerCompose.Command

/-- The documents that commands read. -/
inductive Input where
  | clauseList
  | selector
  | filterMap
  | filterList
  deriving DecidableEq, Repr

/-- A document in words. -/
def Input.description : Input → String
  | clauseList => "condition clause list"
  | selector => "bucket selector"
  | filterMap => "filter map"
  | filterList => "filter clause list"

/-- Why a command fails: its input is not the document that it reads, the library
    refuses what the input says, or the time given is out of range. -/
inductive Error where
  | input (input : Input)
  | failure (failure : Failure)
  | now (milliseconds : Int64)
  deriving DecidableEq, Repr

/-- What is said of a failed command. -/
def Error.message : Error → String
  | input i => s!"input is not a valid {i.description}"
  | failure f => f.message
  | now n => s!"--now {n.toInt} is out of range"

/-- What an input text decodes to. -/
def decode {α : Type} (input : Input) (decode? : Json.Document → Option α) (text : String) :
    Except Error α :=
  match (Json.Document.ofText? text).bind decode? with
  | some value => .ok value
  | none => .error (.input input)

/-- The clauses of an input text. -/
def clauses (text : String) : Except Error (List Condition.Clause) :=
  decode .clauseList Condition.clauseList? text

/-- The selector of the clauses of an input text. -/
def compile (settings : Settings) (text : String) : Except Error Condition.Selector := do
  let clauses ← clauses text
  (Condition.build clauses settings.condition).mapError fun e => .failure e.failure

/-- The form of the selector of an input text. -/
def decompile (settings : Settings) (text : String) : Except Error Condition.Form := do
  let selector ← decode .selector Condition.Selector.ofDocument? text
  return selector.form settings.condition.defaultConnector

/-- The filter clauses of an input text. -/
def filterClauses (text : String) : Except Error (List FilterClause) :=
  decode .filterList (Json.Document.list? FilterClause.ofDocument?) text

/-- The filter map of the clauses of an input text. -/
def compileFilters (text : String) : Except Error FilterMap := do
  return FilterMap.ofClauses (← filterClauses text)

/-- The filter clauses of the filter map of an input text, which may be absent. -/
def decompileFilters (text : String) : Except Error (List FilterClause) := do
  let map? ← decode .filterMap FilterMap.ofDocument? text
  return (map?.map FilterMap.clauses).getD []

/-- The predicate of a fragment. -/
def parsePredicate (fragment : String) : Except Error Predicate :=
  (Predicate.parse fragment).mapError fun e => .failure e.failure

/-- The canonical fragment of a predicate. -/
def renderPredicate (predicate : Predicate) : Except Error String :=
  (Predicate.render predicate).mapError fun e => .failure e.failure

/-- The histogram query of a base query and perhaps a field. -/
def query (settings : Settings) (base : String) (field? : Option String) :
    Except Error Preview.Query :=
  (Preview.buildQuery base field? settings.preview).mapError fun e => .failure e.failure

/-- The time that a command is to take as the present one. -/
def checkNow (now : Int64) : Except Error Int64 :=
  if Calendar.inRange now.toInt then .ok now else .error (.now now)

/-- The table of an input text. -/
def table (text : String) : Except Error Preview.Table :=
  (Preview.Table.ofText text).mapError fun fault => .failure fault.failure

/-- The series of the table of an input text, synthesized where it is too sparse if that
    is wanted. -/
def normalize (settings : Settings) (synthesize : Bool) (now : Int64) (text : String) :
    Except Error Preview.Series := do
  let table ← table text
  return if synthesize then Preview.normalize settings.preview table now
    else Preview.parse settings.preview table

end TriggerCompose.Command
