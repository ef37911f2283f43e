import TriggerCompose.Number.Double

/-!
# Decimal notation

A decimal is a coefficient and a power of ten. This module gives the magnitude
nearest to a decimal, the two ways of writing a decimal down, and the reader of
number texts.

## Main definitions

* `Decimal`: `coefficient * 10 ^ exponent`.
* `Decimal.magnitude?`: the nearest magnitude, if it is in the finite range.
* `Decimal.positional`, `Decimal.scientific`: the two notations.
* `Decimal.Literal`: digits, fraction and exponent of a number text as written.
* `Double.ofText?`: the double that a number text denotes.
-/

namespace TriggerCompose

/-- The number `coefficient * 10 ^ exponent`. -/
structure Decimal where
  coefficient : Nat
  exponent : Int
  deriving DecidableEq, Repr, Inhabited

namespace Decimal

/-- The magnitude nearest to a decimal, if it is in the finite range. A positive
    decimal of `10 ^ 330` or more is out of range, and one below `10 ^ -330` is
    nearest to zero; neither needs its power of ten. -/
def magnitude? (d : Decimal) : Option Magnitude :=
  if d.coefficient = 0 then some Magnitude.zero
  else if 330 ≤ d.exponent then none
  else if d.exponent + (d.coefficient.log2 + 1) < -330 then some Magnitude.zero
  else if 0 ≤ d.exponent then
    Magnitude.ofUnits? (d.coefficient * Nat.pow 10 d.exponent.toNat * Magnitude.unitsPerOne) 1
  else
    Magnitude.ofUnits? (d.coefficient * Magnitude.unitsPerOne) (Nat.pow 10 (-d.exponent).toNat)

/-- The digits of the coefficient. -/
def digits (d : Decimal) : List Char :=
  Nat.toDigits 10 d.coefficient

/-- Positional notation: the digits with as many zeros as the point needs, and no
    point for a whole number. -/
def positional (d : Decimal) : List Char :=
  if 0 ≤ d.exponent then
    d.digits ++ List.replicate d.exponent.toNat '0'
  else
    let places := (-d.exponent).toNat
    let padded := List.replicate (places + 1 - d.digits.length) '0' ++ d.digits
    padded.take (padded.length - places) ++ '.' :: padded.drop (padded.length - places)

/-- The position of the leading digit: `10 ^ leading` is the power of ten that it
    counts. -/
def leading (d : Decimal) : Int :=
  d.exponent + d.digits.length - 1

/-- Scientific notation: one digit before the point, the point only if more digits
    follow, and an exponent that always has a sign. -/
def scientific (d : Decimal) : List Char :=
  let exponent := (if d.leading < 0 then '-' else '+') :: Nat.toDigits 10 d.leading.natAbs
  match d.digits with
  | [] => []
  | [first] => first :: 'e' :: exponent
  | first :: rest => first :: '.' :: rest ++ 'e' :: exponent

/-- A number text as it was written: whole digits, the digits after a point, and
    the exponent, where a point or an exponent was written. -/
structure Literal where
  whole : List Char
  fraction? : Option (List Char)
  exponent? : Option Int
  deriving DecidableEq, Repr

namespace Literal

/-- The decimal that a literal denotes: all its digits, with the exponent lowered
    by the number of fraction digits. -/
def value (l : Literal) : Decimal :=
  let fraction := l.fraction?.getD []
  { coefficient := Nat.ofDigitChars 10 (l.whole ++ fraction) 0
    exponent := l.exponent?.getD 0 - fraction.length }

/-- The natural number that the digits of a literal denote, if neither a point
    nor an exponent was written. -/
def natural? (l : Literal) : Option Nat :=
  match l.fraction?, l.exponent? with
  | none, none => some (Nat.ofDigitChars 10 l.whole 0)
  | _, _ => none

end Literal

/-- The digits at the start of a text, and the text after them. -/
def spanDigits (text : List Char) : List Char × List Char :=
  (text.takeWhile Char.isDigit, text.dropWhile Char.isDigit)

/-- A sign at the start of a text, `true` for a minus, and the text after it. -/
def spanSign : List Char → Bool × List Char
  | '+' :: rest => (false, rest)
  | '-' :: rest => (true, rest)
  | text => (false, text)

/-- A point with the digits after it at the start of a text, if it has one, and
    the text after it. -/
def spanFraction : List Char → Option (List Char) × List Char
  | '.' :: rest => (some (spanDigits rest).1, (spanDigits rest).2)
  | text => (none, text)

/-- An exponent at the start of a text, if it has one, and the text after it: the
    letter `e` in either case, a sign that may be absent, and at least one digit.
    The letter without a digit is an error. -/
def spanExponent? : List Char → Option (Option Int × List Char)
  | [] => some (none, [])
  | mark :: rest =>
    if mark == 'e' || mark == 'E' then
      let (negative, rest) := spanSign rest
      let (digits, rest) := spanDigits rest
      if digits.isEmpty then none
      else
        let size : Int := Nat.ofDigitChars 10 digits 0
        some (some (if negative then -size else size), rest)
    else some (none, mark :: rest)

/-- An unsigned number at the start of a text, and the text after it: digits with
    a point anywhere among them or none at all, then an exponent that may be
    absent. At least one digit stands before the exponent. -/
def spanLiteral? (text : List Char) : Option (Literal × List Char) :=
  let (whole, rest) := spanDigits text
  let (fraction?, rest) := spanFraction rest
  if whole.isEmpty && (fraction?.getD []).isEmpty then none
  else
    (spanExponent? rest).map fun (exponent?, rest) => ({ whole, fraction?, exponent? }, rest)

end Decimal

namespace Double

/-- The double nearest to a signed decimal; out of range, an infinity. -/
def ofDecimal (negative : Bool) (d : Decimal) : Double :=
  match d.magnitude? with
  | some magnitude => finite { negative, magnitude }
  | none => infinite negative

/-- The words for numbers that are not finite, in any case. -/
def ofWord? (negative : Bool) (word : List Char) : Option Double :=
  let lower := word.map Char.toLower
  if lower == ['i', 'n', 'f'] || lower == ['i', 'n', 'f', 'i', 'n', 'i', 't', 'y'] then
    some (infinite negative)
  else if lower == ['n', 'a', 'n'] then some nan
  else none

/-- The double that a whole text denotes, if it is a number text: a sign that may
    be absent, then an unsigned number or one of the words. -/
def ofText? (text : List Char) : Option Double :=
  let (negative, rest) := Decimal.spanSign text
  match Decimal.spanLiteral? rest with
  | some (literal, []) => some (ofDecimal negative literal.value)
  | _ => ofWord? negative rest

end Double

end TriggerCompose
