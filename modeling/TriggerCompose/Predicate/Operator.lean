import TriggerCompose.Predicate.Lexer
import TriggerCompose.Text.Search

/-!
# Operators of predicate fragments

The operators of a query predicate, and how the operator of a fragment is told
from its text before the fragment is parsed.

## Main definitions

* `Predicate.Comparison`, `Predicate.Operator`: the operators.
* `Predicate.negationOpen?`: the opening of a negated predicate.
* `Predicate.withoutQuoted`: a fragment with its quoted spans blanked out.
* `Predicate.Operator.detect`: the operator of a fragment.
-/

namespace TriggerCompose.Predicate

/-- The numeric comparisons. -/
inductive Comparison where
  | greater
  | greaterEqual
  | less
  | lessEqual
  deriving DecidableEq, Repr, Inhabited

/-- The symbol of a comparison. -/
def Comparison.symbol : Comparison → List Char
  | greater => ['>']
  | greaterEqual => ['>', '=']
  | less => ['<']
  | lessEqual => ['<', '=']

/-- The operator of a predicate: equality, its negation, or a comparison. -/
inductive Operator where
  | is
  | isNot
  | compare (comparison : Comparison)
  deriving DecidableEq, Repr, Inhabited

namespace Operator

/-- The name of an operator in documents and messages. -/
def name : Operator → String
  | is => "IS"
  | isNot => "IS_NOT"
  | compare .greater => "IS_GREATER"
  | compare .greaterEqual => "IS_GREATER_EQUAL"
  | compare .less => "IS_LESS"
  | compare .lessEqual => "IS_LESS_EQUAL"

/-- All operators. -/
def all : List Operator :=
  [is, isNot, compare .greater, compare .greaterEqual, compare .less, compare .lessEqual]

/-- The names of the operators. -/
def names : List (String × Operator) :=
  all.map fun operator => (operator.name, operator)

end Operator

/-- The text after the opening of a negation: the word `NOT`, white space and an
    opening parenthesis. -/
def negationOpen? (text : List Char) : Option (List Char) :=
  match keyword ['N', 'O', 'T'] text with
  | .found _ rest =>
    match skipSpace rest with
    | '(' :: inner => some inner
    | _ => none
  | _ => none

theorem length_after_lt {p : Char → Bool} {c : Char} {rest after : List Char}
    (h : rest.dropWhile p = c :: after) : after.length < rest.length + 1 := by
  have hsuffix := (rest.dropWhile_suffix p).length_le
  rw [h, List.length_cons] at hsuffix
  omega

/-- A text with every quoted span, its quotes included, replaced by one space. A
    quote without a partner stays. -/
def withoutQuoted : List Char → List Char
  | [] => []
  | c :: rest =>
    if c == quote then
      match h : rest.dropWhile (· != quote) with
      | [] => c :: rest
      | _ :: after =>
        have := length_after_lt h
        ' ' :: withoutQuoted after
    else c :: withoutQuoted rest
termination_by text => text.length
decreasing_by
  · exact this
  · exact Nat.lt_succ_self _

/-- The comparisons in the order in which they are looked for. A symbol comes before
    the one it starts with. -/
def Comparison.priority : List Comparison :=
  [greaterEqual, lessEqual, greater, less]

/-- The operator of a fragment. A negation is told by its opening, a comparison by a
    symbol outside quotes, and everything else is an equality. -/
def Operator.detect (fragment : List Char) : Operator :=
  if (negationOpen? (Text.trimStart fragment)).isSome then isNot
  else
    match Comparison.priority.find? fun c => Text.occursIn c.symbol (withoutQuoted fragment) with
    | some c => compare c
    | none => is

end TriggerCompose.Predicate
