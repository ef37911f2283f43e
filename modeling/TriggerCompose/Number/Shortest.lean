import TriggerCompose.Number.Decimal

/-!
# Shortest decimal text of a double

A double is written with the fewest digits that read back as the same double, and
of two such digit strings with the nearer one. The notation and the way an exact
tie goes are choices of each format, held in `Number.Format`.

## Main definitions

* `Magnitude.shortest`: the decimal with the fewest digits that reads back.
* `Number.Format`: the choices of a number format.
* `Number.script`, `Number.json`: the formats of scripts and of JSON texts.
-/

namespace TriggerCompose

namespace Magnitude

/-- A power of ten by which every positive magnitude reaches at least seventeen
    whole digits. -/
def scale : Nat := 340

/-- The whole part of a magnitude times `10 ^ scale`. -/
def scaled (m : Magnitude) : Nat :=
  m.units * Nat.pow 10 scale / unitsPerOne

/-- The decimals next to a magnitude from below and above on the grid that keeps
    `count` leading digits. A carry out of the leading digit leaves a power of
    ten, which needs one digit. -/
def neighbours (m : Magnitude) (count : Nat) : Decimal × Decimal :=
  let dropped := (Nat.toDigits 10 m.scaled).length - count
  let below := m.scaled / Nat.pow 10 dropped
  let exponent := (dropped : Int) - scale
  let above : Decimal :=
    if below + 1 = Nat.pow 10 count then { coefficient := 1, exponent := exponent + count }
    else { coefficient := below + 1, exponent }
  ({ coefficient := below, exponent }, above)

/-- Twice the distance from the lower neighbour, compared with the width of the
    grid: `lt` if the lower neighbour is nearer, `eq` at the exact middle. -/
def compareMiddle (m : Magnitude) (count : Nat) : Ordering :=
  let dropped := (Nat.toDigits 10 m.scaled).length - count
  let below := m.scaled / Nat.pow 10 dropped
  compare (2 * (m.units * Nat.pow 10 scale))
    ((2 * below + 1) * Nat.pow 10 dropped * unitsPerOne)

/-- How an exact tie between two digit strings of one length is settled. -/
inductive Tie where
  | up
  | even
  deriving DecidableEq, Repr

/-- Of two decimals around a magnitude, the one that reads back as it; of two that do,
    the nearer one, and at an exact tie the one that `tie` says. -/
def nearer? (tie : Tie) (m : Magnitude) (middle : Ordering) (below above : Decimal) :
    Option Decimal :=
  if below.magnitude? = some m then
    if above.magnitude? = some m then
      match middle with
      | .lt => some below
      | .gt => some above
      | .eq => some (if tie = .even && below.coefficient % 2 = 0 then below else above)
    else some below
  else if above.magnitude? = some m then some above
  else none

/-- The decimal of at most `count` digits nearest to a magnitude among those that
    read back as it. -/
def shortestOf? (tie : Tie) (m : Magnitude) (count : Nat) : Option Decimal :=
  m.nearer? tie (m.compareMiddle count) (m.neighbours count).1 (m.neighbours count).2

/-- All the digits of a magnitude. -/
def exact (m : Magnitude) : Decimal where
  coefficient := m.units * Nat.pow 5 unitPlaces
  exponent := -unitPlaces

/-- The decimal with the fewest digits that reads back as the magnitude. Seventeen
    digits are always enough. -/
def shortest (tie : Tie) (m : Magnitude) : Decimal :=
  if m.rank = 0 then { coefficient := 0, exponent := 0 }
  else ((List.range' 1 17).findSome? (m.shortestOf? tie)).getD m.exact

end Magnitude

/-- The choices of a number format: how ties go, whether a whole number keeps a
    point, and for which positions of the leading digit the notation is
    positional. -/
structure Number.Format where
  tie : Magnitude.Tie
  keepsPoint : Bool
  isPositional : Int → Bool

namespace Number

/-- The format of scripts and messages: always positional, whole numbers without a
    point, a tie goes up. -/
def script : Format where
  tie := .up
  keepsPoint := false
  isPositional _ := true

/-- The format of JSON texts: positional from `10 ^ -5` to below `10 ^ 16`, with a
    point in every positional number; a tie goes to the even digit. -/
def json : Format where
  tie := .even
  keepsPoint := true
  isPositional leading := -5 ≤ leading && leading < 16

end Number

/-- A magnitude in a format. -/
def Magnitude.written (format : Number.Format) (m : Magnitude) : List Char :=
  let d := m.shortest format.tie
  if format.isPositional d.leading then
    if format.keepsPoint && 0 ≤ d.exponent then d.positional ++ ['.', '0'] else d.positional
  else d.scientific

/-- A finite double in a format; a negative zero keeps its sign. -/
def Finite.written (format : Number.Format) (x : Finite) : List Char :=
  if x.negative then '-' :: x.magnitude.written format else x.magnitude.written format

/-- A double as scripts and messages show it. -/
def Double.display : Double → List Char
  | nan => ['N', 'a', 'N']
  | infinite false => ['i', 'n', 'f']
  | infinite true => ['-', 'i', 'n', 'f']
  | finite x => x.written Number.script

end TriggerCompose
