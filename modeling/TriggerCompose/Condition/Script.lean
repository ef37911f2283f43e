import TriggerCompose.Condition.Clause
import TriggerCompose.Failure
import TriggerCompose.Text.Blank

/-!
# Script texts of conditions

A script writes a clause list as one line of tokens: field, comparison and
threshold for the anchor, and a connector before them for every later clause.
Reading a script never fails; a token that is missing or unknown leaves its part
of the clause absent. Writing one refuses a clause that the script could not hold.

## Main definitions

* `Condition.groups`: the tokens of a script, regrouped into clauses.
* `Condition.decompile`: the clause list of a script.
* `Condition.Defect`, `Condition.ScriptError`: why a clause list has no script.
* `Condition.compile`: the script of a clause list.
-/

namespace TriggerCompose.Condition

/-! ### Reading -/

/-- The tokens of a script: its words. -/
def tokens (source : String) : List String :=
  (Text.words source.toList).map String.ofList

/-- Tokens in groups of four; the last group may be shorter. -/
def groupsOfFour : List String → List (List String)
  | [] => []
  | a :: b :: c :: d :: rest => [a, b, c, d] :: groupsOfFour rest
  | short => [short]

/-- Tokens grouped into clauses: the first three for the anchor, which has no
    connector, and four for each later clause. The last group may be shorter. -/
def regroup : List String → List (List String)
  | [] => []
  | a :: b :: c :: rest => [a, b, c] :: groupsOfFour rest
  | short => [short]

/-- The tokens of a script, regrouped into clauses. -/
def groups (source : String) : List (List String) :=
  regroup (tokens source)

/-- What every bucket variable starts with in a script. -/
def variableMark : String := "params."

/-- The field of a token: without the variable mark, of which one is removed. -/
def fieldOfToken (token : String) : String :=
  match variableMark.toList.isPrefixOf? token.toList with
  | some rest => String.ofList rest
  | none => token

/-- The clause of a group of tokens that follow the connector. -/
def clauseOfOperands (connector? : Option Connector) (operands : List String) : Clause where
  connector? := connector?
  field := (operands[0]?.map fieldOfToken).getD ""
  comparison? := operands[1]?.bind Comparison.ofSymbol?
  threshold? := operands[2]?.map Threshold.ofToken

/-- The clause of a later group. A token that is no connector stands for the
    fallback. -/
def clauseOfGroup (fallback : Connector) (group : List String) : Clause :=
  clauseOfOperands (some ((group.head?.bind Connector.ofSymbol?).getD fallback)) group.tail

/-- The clauses of a grouped script. -/
def clausesOfGroups (fallback : Connector) : List (List String) → List Clause
  | [] => []
  | anchor :: later => clauseOfOperands none anchor :: later.map (clauseOfGroup fallback)

/-- The clause list of a script. -/
def decompile (source : String) (fallback : Connector) : List Clause :=
  clausesOfGroups fallback (groups source)

/-! ### Writing -/

/-- What is wrong with a clause that cannot be written. -/
inductive Defect where
  | missingField
  | blankInField (field : String)
  | missingComparison
  | missingThreshold
  | infiniteThreshold (value : Double)
  | emptyThreshold
  | blankInThreshold (text : String)
  deriving DecidableEq, Repr

namespace Defect

/-- A part that is missing or empty makes a clause incomplete; a part that a token
    cannot hold is an invalid token. -/
def reason : Defect → Failure.Reason
  | missingField | missingComparison | missingThreshold | emptyThreshold => .incompleteClause
  | blankInField _ | infiniteThreshold _ | blankInThreshold _ => .scriptToken

/-- A defect in words. -/
def description : Defect → String
  | missingField => "missing field"
  | blankInField field => s!"field {Text.quoted field} contains whitespace"
  | missingComparison => "missing operator"
  | missingThreshold => "missing threshold"
  | infiniteThreshold value => s!"threshold {String.ofList value.display} is not finite"
  | emptyThreshold => "empty threshold"
  | blankInThreshold text => s!"threshold {Text.quoted text} contains whitespace"

end Defect

/-- A clause list that has no script: the first clause at fault and its first
    defect. -/
structure ScriptError where
  index : Nat
  defect : Defect
  deriving DecidableEq, Repr

/-- The failure that reports a script error. -/
def ScriptError.failure (e : ScriptError) : Failure where
  reason := e.defect.reason
  detail := s!"clause {e.index}: {e.defect.description}"

/-- The token of a field, which is one word. -/
def fieldToken (field : String) : Except Defect String :=
  if field.isEmpty then .error .missingField
  else if Text.hasBlank field then .error (.blankInField field)
  else .ok (variableMark ++ field)

/-- The token of a comparison. -/
def comparisonToken : Option Comparison → Except Defect String
  | some comparison => .ok comparison.symbol
  | none => .error .missingComparison

/-- The token of a threshold: a finite number or one word. -/
def thresholdToken : Option Threshold → Except Defect String
  | none => .error .missingThreshold
  | some (.number x) =>
    match x with
    | .finite _ => .ok (String.ofList x.display)
    | _ => .error (.infiniteThreshold x)
  | some (.text s) =>
    if s.isEmpty then .error .emptyThreshold
    else if Text.hasBlank s then .error (.blankInThreshold s)
    else .ok s

/-- The three tokens that every clause has. -/
def Clause.operands (c : Clause) : Except Defect (List String) := do
  let field ← fieldToken c.field
  let comparison ← comparisonToken c.comparison?
  let threshold ← thresholdToken c.threshold?
  return [field, comparison, threshold]

/-- The connector token before a clause. The anchor has none. -/
def Clause.lead (fallback : Connector) (index : Nat) (c : Clause) : List String :=
  if index = 0 then [] else [(c.connector?.getD fallback).symbol]

/-- The tokens of a clause list whose first clause has the given index. -/
def scriptTokens (fallback : Connector) (index : Nat) :
    List Clause → Except ScriptError (List String)
  | [] => .ok []
  | c :: later => do
    let operands ← c.operands.mapError (ScriptError.mk index)
    let rest ← scriptTokens fallback (index + 1) later
    return c.lead fallback index ++ operands ++ rest

/-- The script of a clause list: its tokens with single spaces between them. -/
def compile (clauses : List Clause) (fallback : Connector) : Except ScriptError String := do
  return " ".intercalate (← scriptTokens fallback 0 clauses)

end TriggerCompose.Condition
