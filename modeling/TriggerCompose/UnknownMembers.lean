/-!
# Unknown members of records

A record decoder knows the names of its fields. A document may hold members with
other names, and each record has a policy for them.

## Main definitions

* `UnknownMembers`: the two policies.
-/

namespace TriggerCompose

/-- What becomes of members that are no field of a record: they are passed over, or
    the document is refused. -/
inductive UnknownMembers where
  | ignored
  | refused
  deriving DecidableEq, Repr

end TriggerCompose
