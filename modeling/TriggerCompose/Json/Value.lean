import TriggerCompose.Number.Shortest

/-!
# JSON values

The values of the data format. A number is an integer in the common range of the
signed and unsigned 64-bit words, or a finite double. The members of an object
are a list; the values that the reader makes list them in ascending order of keys.

## Main definitions

* `Json.Number`: an integer or a double, with the views of it as a word.
* `Json`: a value.
-/

namespace TriggerCompose

/-- A number of a JSON text. -/
inductive Json.Number where
  | integer (value : Int) (inRange : -0x8000000000000000 ≤ value ∧ value < 0x10000000000000000)
  | real (value : Finite)
  deriving DecidableEq

namespace Json.Number

/-- An integer, if it is in range. -/
def ofInt? (n : Int) : Option Json.Number :=
  if h : -0x8000000000000000 ≤ n ∧ n < 0x10000000000000000 then some (.integer n h) else none

/-- An unsigned word. -/
def ofUInt64 (n : UInt64) : Json.Number :=
  .integer n.toNat ⟨by omega, by have := n.toNat_lt; omega⟩

/-- A signed word. -/
def ofInt64 (n : Int64) : Json.Number :=
  .integer n.toInt ⟨by have := n.le_toInt; omega, by have := n.toInt_lt; omega⟩

/-- The number as a signed word, if it is an integer that fits. -/
def int64? : Json.Number → Option Int64
  | integer n _ => if n < 0x8000000000000000 then some (Int64.ofInt n) else none
  | real _ => none

/-- The number as an unsigned word, if it is an integer that fits. -/
def uint64? : Json.Number → Option UInt64
  | integer n _ => if 0 ≤ n then some (UInt64.ofNat n.toNat) else none
  | real _ => none

/-- The double nearest to the number. -/
def double : Json.Number → Double
  | integer n _ => .ofDecimal (n < 0) { coefficient := n.natAbs, exponent := 0 }
  | real x => .finite x

/-- The text of the number: an integer without a point, a double always with a
    point or an exponent. -/
def written : Json.Number → List Char
  | integer n _ => if n < 0 then '-' :: Nat.toDigits 10 n.natAbs else Nat.toDigits 10 n.natAbs
  | real x => x.written Number.json

end Json.Number

/-- A JSON value. -/
inductive Json where
  | null
  | boolean (value : Bool)
  | number (value : Json.Number)
  | string (value : String)
  | array (items : List Json)
  | object (members : List (String × Json))

namespace Json

instance : Inhabited Json := ⟨null⟩

/-- A natural number that counts something. One too large for a number of the
    format stands as its nearest double. -/
def ofNat (n : Nat) : Json :=
  if h : n < 0x10000000000000000 then number (.integer n ⟨by omega, by omega⟩)
  else
    match Double.ofDecimal false { coefficient := n, exponent := 0 } with
    | .finite x => number (.real x)
    | _ => null

/-- An optional value; absence is `null`. -/
def ofOption {α : Type} (encode : α → Json) : Option α → Json
  | some x => encode x
  | none => null

/-- A double. The format has no word for one that is not finite, so it is
    `null`. -/
def ofDouble : Double → Json
  | .finite x => number (.real x)
  | _ => null

end Json

end TriggerCompose
