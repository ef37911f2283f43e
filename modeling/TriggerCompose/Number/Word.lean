/-!
# Fixed-width integers in number texts

Readers for digits and for unsigned and signed 64-bit integers.

## Main definitions

* `Number.hexDigit?`: the value of a hexadecimal digit.
* `Number.natural?`: an unsigned number text without a bound.
* `Number.unsigned?`, `Number.signed?`: texts of 64-bit integers.
-/

namespace TriggerCompose.Number

/-- The value of a hexadecimal digit in either case. -/
def hexDigit? (c : Char) : Option Nat :=
  if '0' ≤ c && c ≤ '9' then some (c.toNat - '0'.toNat)
  else if 'a' ≤ c && c ≤ 'f' then some (c.toNat - 'a'.toNat + 10)
  else if 'A' ≤ c && c ≤ 'F' then some (c.toNat - 'A'.toNat + 10)
  else none

/-- The natural number that a non-empty run of ASCII digits denotes. -/
def natural? (text : List Char) : Option Nat :=
  if text.isEmpty || text.any (! ·.isDigit) then none
  else some (Nat.ofDigitChars 10 text 0)

/-- The integer that a text denotes: a sign that may be absent, then digits. -/
def integer? : List Char → Option Int
  | '+' :: rest => (natural? rest).map fun n => (n : Int)
  | '-' :: rest => (natural? rest).map fun n => -(n : Int)
  | text => (natural? text).map fun n => (n : Int)

/-- An unsigned 64-bit integer: digits with an optional plus sign, in range. -/
def unsigned? (text : List Char) : Option UInt64 :=
  match text with
  | '-' :: _ => none
  | _ => (integer? text).bind fun n =>
      if n < UInt64.size then some (UInt64.ofNat n.toNat) else none

/-- A signed 64-bit integer: digits with an optional sign, in range. -/
def signed? (text : List Char) : Option Int64 :=
  (integer? text).bind fun n =>
    if Int64.minValue.toInt ≤ n ∧ n ≤ Int64.maxValue.toInt then some (Int64.ofInt n) else none

end TriggerCompose.Number
