/-!
# Failures of the library

The five reasons for which the operations of the library refuse an input, with
their codes, and the message that reports one.

## Main definitions

* `Failure`: a reason with the detail of the case.
* `Failure.message`: the report of a failure.
-/

namespace TriggerCompose

/-- Why an input is refused. -/
inductive Failure.Reason where
  | incompleteClause
  | scriptToken
  | predicate
  | dataFormat
  | invalidField
  deriving DecidableEq, Repr

namespace Failure.Reason

/-- The code of a reason: `11xx` for conditions and predicates, `12xx` for
    previews. -/
def code : Failure.Reason → Nat
  | incompleteClause => 1101
  | scriptToken => 1102
  | predicate => 1103
  | dataFormat => 1201
  | invalidField => 1202

/-- A reason in words. -/
def description : Failure.Reason → String
  | incompleteClause => "incomplete condition clause"
  | scriptToken => "invalid script token"
  | predicate => "malformed query predicate"
  | dataFormat => "data format error"
  | invalidField => "invalid timestamp field"

end Failure.Reason

/-- A refused input: the reason and the detail of the case. -/
structure Failure where
  reason : Failure.Reason
  detail : String
  deriving DecidableEq, Repr

/-- The report of a failure: the code and the reason on the first line, the detail
    after them. -/
def Failure.message (f : Failure) : String :=
  s!"[{f.reason.code}] {f.reason.description}\n  -> Details: {f.detail}"

end TriggerCompose
