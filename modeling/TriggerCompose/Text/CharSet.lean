/-!
# Sets of characters given by their boundaries

A set of code points is stored as the ascending list of the places where
membership changes. It starts out false at code point zero, so a character is in
the set exactly when an odd number of boundaries lie at or below it.

## Main definitions

* `Text.CharSet`: the boundaries of a set.
* `Text.CharSet.contains`: membership of a character.
-/

namespace TriggerCompose.Text

/-- A set of characters, held as the code points where membership flips. -/
structure CharSet where
  boundaries : List Nat

namespace CharSet

/-- Membership of code point `code` in a set whose members so far are decided by
    `inside`, the state before the first remaining boundary. -/
def containsFrom (code : Nat) (inside : Bool) : List Nat → Bool
  | [] => inside
  | boundary :: rest => if code < boundary then inside else containsFrom code (!inside) rest

/-- Membership of a character. -/
def contains (set : CharSet) (c : Char) : Bool :=
  containsFrom c.toNat false set.boundaries

end CharSet

end TriggerCompose.Text
