/-!
# Double-precision numbers

A finite double is a sign and a magnitude, and a magnitude is known by its place
among all magnitudes: `0`, the least positive one, the next, and so on. Every
magnitude is a whole number of units of `2 ^ -1074`, so rounding to the nearest
double is exact arithmetic on natural numbers.

## Main definitions

* `Magnitude`: the magnitudes of finite doubles, in ascending order of `rank`.
* `Magnitude.units`: the value of a magnitude as a multiple of `2 ^ -1074`.
* `Magnitude.ofUnits?`: the magnitude nearest to a quotient, ties to even.
* `Finite`: a finite double, with the sign of zero kept.
* `Double`: a double, finite or not.
-/

namespace TriggerCompose

/-- The number of magnitudes of finite doubles. -/
def Magnitude.count : Nat :=
  2047 <<< 52

/-- The magnitude of a finite double, known by its place in ascending order. -/
structure Magnitude where
  rank : Nat
  rank_lt : rank < Magnitude.count
  deriving DecidableEq, Repr

namespace Magnitude

/-- The magnitude of zero. -/
def zero : Magnitude where
  rank := 0
  rank_lt := by decide

instance : Inhabited Magnitude := ⟨zero⟩

/-- How many places the significand of a magnitude is shifted: none for the
    lowest `2 ^ 53` of them, and one more for each following run of `2 ^ 52`. -/
def shift (m : Magnitude) : Nat :=
  m.rank >>> 52 - 1

/-- The significand of a magnitude, a whole number below `2 ^ 53`. -/
def significand (m : Magnitude) : Nat :=
  m.rank - m.shift <<< 52

/-- The value of a magnitude as a multiple of `2 ^ -1074`. -/
def units (m : Magnitude) : Nat :=
  m.significand <<< m.shift

/-- The number of binary places of a unit. -/
def unitPlaces : Nat :=
  1074

/-- The value of one as a multiple of `2 ^ -1074`. -/
def unitsPerOne : Nat :=
  1 <<< unitPlaces

/-- The whole number nearest to `num / den`; of two at the same distance, the
    even one. -/
def roundEven (num den : Nat) : Nat :=
  let floor := num / den
  let rest := num % den
  if 2 * rest < den then floor
  else if den < 2 * rest then floor + 1
  else if floor % 2 = 0 then floor
  else floor + 1

/-- The rank of the magnitude nearest to `num / den` units. A significand that
    rounds up to `2 ^ 53` carries into the next run of ranks by itself. -/
def nearestRank (num den : Nat) : Nat :=
  let shift := (num / den).log2 - 52
  shift <<< 52 + roundEven num (den <<< shift)

/-- The magnitude nearest to `num / den` units, if it is in the finite range. -/
def ofUnits? (num den : Nat) : Option Magnitude :=
  if h : nearestRank num den < count then some ⟨nearestRank num den, h⟩ else none

/-- The whole part of a magnitude. -/
def floor (m : Magnitude) : Nat :=
  m.units / unitsPerOne

/-- The whole number nearest to a magnitude, a half going up. -/
def round (m : Magnitude) : Nat :=
  (2 * m.units + unitsPerOne) / (2 * unitsPerOne)

end Magnitude

/-- A finite double. Zero carries a sign like every other number. -/
structure Finite where
  negative : Bool
  magnitude : Magnitude
  deriving DecidableEq, Repr, Inhabited

namespace Finite

/-- The double nearest to an integer, if it is in the finite range. -/
def ofInt? (n : Int) : Option Finite :=
  (Magnitude.ofUnits? (n.natAbs * Magnitude.unitsPerOne) 1).map fun magnitude =>
    { negative := n < 0, magnitude }

/-- Equality as numbers: the two zeros are equal. -/
def sameValue (x y : Finite) : Bool :=
  x.magnitude == y.magnitude && (x.negative == y.negative || x.magnitude == Magnitude.zero)

/-- The number without its fraction. -/
def truncate (x : Finite) : Int :=
  if x.negative then -(x.magnitude.floor : Int) else x.magnitude.floor

end Finite

/-- A double-precision number. -/
inductive Double where
  | nan
  | infinite (negative : Bool)
  | finite (value : Finite)
  deriving DecidableEq, Repr, Inhabited

namespace Double

/-- Equality as numbers: the two zeros are equal, and `nan` equals nothing. -/
def sameValue : Double → Double → Bool
  | finite x, finite y => x.sameValue y
  | infinite s, infinite t => s == t
  | _, _ => false

end Double

end TriggerCompose
