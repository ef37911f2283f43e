import TriggerCompose.Number.Shortest
import TriggerCompose.Text.Quoted
import TriggerCompose.Text.Search

/-!
# Clauses of a trigger condition

A trigger condition is a list of clauses, each of which compares one bucket field
with a threshold. The first clause is the anchor; every later clause is joined to
the one before it by a connector.

## Main definitions

* `Condition.Connector`: how a clause is joined to the one before it.
* `Condition.Comparison`: how a field is compared with its threshold.
* `Condition.Threshold`: a number, or any other token as text.
* `Condition.Clause`: one clause, possibly with parts missing.
-/

namespace TriggerCompose.Condition

/-- How a clause is joined to the one before it. -/
inductive Connector where
  | and
  | or
  deriving DecidableEq, Repr, Inhabited

namespace Connector

/-- The script symbol of a connector. -/
def symbol : Connector → String
  | and => "&&"
  | or => "||"

/-- The connector of a script symbol. -/
def ofSymbol? (token : String) : Option Connector :=
  if token = "&&" then some and
  else if token = "||" then some or
  else none

/-- The name of a connector in documents. -/
def name : Connector → String
  | and => "AND"
  | or => "OR"

/-- The connector that a setting names: a script symbol, or `and` or `or` in any
    ASCII case. -/
def ofText? (text : String) : Option Connector :=
  (ofSymbol? text).or <|
    if Text.lowerAscii text = "and" then some and
    else if Text.lowerAscii text = "or" then some or
    else none

/-- What is said of a setting that names no connector. -/
def unknownMessage (text : String) : String :=
  s!"unknown connector {Text.quoted text} (expected and|or)"

end Connector

/-- How a field is compared with its threshold. -/
inductive Comparison where
  | above
  | below
  | exactly
  deriving DecidableEq, Repr, Inhabited

namespace Comparison

/-- The script symbol of a comparison. -/
def symbol : Comparison → String
  | above => ">"
  | below => "<"
  | exactly => "=="

/-- The comparison of a script symbol. -/
def ofSymbol? (token : String) : Option Comparison :=
  if token = ">" then some above
  else if token = "<" then some below
  else if token = "==" then some exactly
  else none

/-- The name of a comparison in documents. -/
def name : Comparison → String
  | above => "ABOVE"
  | below => "BELOW"
  | exactly => "EXACTLY"

end Comparison

/-- The right-hand side of a clause. -/
inductive Threshold where
  | number (value : Double)
  | text (value : String)
  deriving DecidableEq, Repr, Inhabited

namespace Threshold

/-- The threshold of a script token: a number if the token is the text of a finite
    one, and otherwise the token as it stands. -/
def ofToken (token : String) : Threshold :=
  match Double.ofText? token.toList with
  | some (.finite x) => number (.finite x)
  | _ => text token

/-- The script token of a threshold. -/
def display : Threshold → String
  | number x => String.ofList x.display
  | text s => s

/-- Equality with numbers compared as numbers. -/
def sameValue : Threshold → Threshold → Bool
  | number x, number y => x.sameValue y
  | text s, text t => s == t
  | _, _ => false

end Threshold

/-- One clause of a condition. Parts that are not known are absent, and an unknown
    field is the empty string. -/
structure Clause where
  connector? : Option Connector
  field : String
  comparison? : Option Comparison
  threshold? : Option Threshold
  deriving DecidableEq, Repr, Inhabited

/-- Equality of clauses with numbers compared as numbers. -/
def Clause.sameValue (c d : Clause) : Bool :=
  c.connector? == d.connector? && c.field == d.field && c.comparison? == d.comparison? &&
    match c.threshold?, d.threshold? with
    | some s, some t => s.sameValue t
    | none, none => true
    | _, _ => false

end TriggerCompose.Condition
