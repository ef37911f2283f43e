import TriggerCompose.Predicate.Parser

/-!
# Canonical fragments of predicates

The fragment in which a predicate is written. Operands of equalities are always
quoted; those of comparisons only where they could not be read bare.

## Main definitions

* `Predicate.render`: the canonical fragment of a predicate.
* `Predicate.RenderError`: an operand that no fragment can hold.
-/

namespace TriggerCompose.Predicate

/-- An operand that holds a quote. Quoted operands have no escapes, so no fragment
    can hold it. -/
structure RenderError where
  operator : Operator
  operand : String
  deriving DecidableEq, Repr

/-- The failure that reports an operand with a quote. -/
def RenderError.failure (e : RenderError) : Failure where
  reason := .predicate
  detail := s!"{e.operator.name} operand {Text.quoted e.operand} contains '\"'"

/-- An operand between quotes. -/
def quotedOperand (operand : List Char) : List Char :=
  quote :: operand ++ [quote]

/-- A comparison operand that has to be quoted: an empty one, or one that holds a
    blank, a colon or a character where operands stop. -/
def needsQuotes (operand : List Char) : Bool :=
  operand.isEmpty || operand.any fun c => Text.isBlank c || c == ':' || compareStop.contains c

/-- An operand of a comparison. -/
def comparisonOperand (operand : List Char) : List Char :=
  if needsQuotes operand then quotedOperand operand else operand

/-- The equality of a field and a value. -/
def equality (field value : List Char) : List Char :=
  quotedOperand field ++ ':' :: quotedOperand value

/-- The canonical fragment of operands without quotes. -/
def fragment (operator : Operator) (field value : List Char) : List Char :=
  match operator with
  | .is => equality field value
  | .isNot => ['N', 'O', 'T', ' ', '('] ++ equality field value ++ [')']
  | .compare comparison =>
    comparisonOperand field ++ comparison.symbol ++ comparisonOperand value

/-- The canonical fragment of a predicate. The field is looked at before the value. -/
def render (p : Predicate) : Except RenderError String :=
  match [p.field, p.value].find? fun operand => operand.toList.contains quote with
  | some operand => .error { operator := p.operator, operand }
  | none => .ok (String.ofList (fragment p.operator p.field.toList p.value.toList))

end TriggerCompose.Predicate
