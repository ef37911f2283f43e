/-!
# Calendar dates

Dates of the Gregorian calendar, extended to all years before and after its
introduction, and the number of days between a date and the epoch, 1970-01-01.

## Main definitions

* `Calendar.Date`: year, month and day.
* `Calendar.daysInMonth`: the length of a month.
* `Calendar.Date.ofParts?`: the date of three numbers, if they make one.
* `Calendar.Date.dayNumber`: days since the epoch.
* `Calendar.inRange`: the milliseconds for which there is a date.
-/

namespace TriggerCompose.Calendar

/-- A year with a day more: every fourth one, but of the full centuries only every
    fourth. -/
def isLeap (year : Int) : Bool :=
  year % 4 == 0 && (year % 100 != 0 || year % 400 == 0)

/-- The number of days of a month; there are none outside January to December. -/
def daysInMonth (year : Int) : Nat → Nat
  | 1 | 3 | 5 | 7 | 8 | 10 | 12 => 31
  | 4 | 6 | 9 | 11 => 30
  | 2 => if isLeap year then 29 else 28
  | _ => 0

/-- The first year for which dates are kept. -/
def firstYear : Int := -262143

/-- The last year for which dates are kept. -/
def lastYear : Int := 262142

/-- A date. -/
structure Date where
  year : Int
  month : Nat
  day : Nat
  deriving DecidableEq, Repr, Inhabited

namespace Date

/-- The date of three numbers, if the year is kept, the month is one of twelve and
    the day is in the month. -/
def ofParts? (year : Int) (month day : Nat) : Option Date :=
  if firstYear ≤ year ∧ year ≤ lastYear ∧ 1 ≤ day ∧ day ≤ daysInMonth year month then
    some { year, month, day }
  else none

end Date

/-- The number of leap years from year 1 up to the year before the one given;
    negative for a year before that. -/
def leapsBefore (year : Int) : Int :=
  (year - 1) / 4 - (year - 1) / 100 + (year - 1) / 400

/-- The days from the epoch to the first of January of a year. -/
def yearStart (year : Int) : Int :=
  365 * (year - 1970) + (leapsBefore year - leapsBefore 1970)

/-- The days of a year before the first of a month. -/
def daysBeforeMonth (year : Int) (month : Nat) : Nat :=
  (List.range (month - 1)).foldl (fun days m => days + daysInMonth year (m + 1)) 0

/-- The days from the epoch to a date. -/
def Date.dayNumber (d : Date) : Int :=
  yearStart d.year + daysBeforeMonth d.year d.month + (d.day - 1)

/-- The milliseconds of a day. -/
def dayLength : Int := 86400000

/-- A number of milliseconds since the epoch that falls on a date that is kept. -/
def inRange (milliseconds : Int) : Bool :=
  yearStart firstYear * dayLength ≤ milliseconds &&
    milliseconds < yearStart (lastYear + 1) * dayLength

end TriggerCompose.Calendar
