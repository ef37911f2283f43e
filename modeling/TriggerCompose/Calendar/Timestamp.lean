import TriggerCompose.Calendar.Date
import TriggerCompose.Text.Blank

/-!
# Timestamps

Texts of points in time, as the milliseconds since the epoch. One form is strict,
with a fixed number of digits and an offset from universal time. The others have
no offset and are lenient about blanks and the number of digits.

## Main definitions

* `Calendar.Clock`: a time of day.
* `Calendar.milliseconds`: the point in time of a date, a clock and an offset.
* `Calendar.ofStrict?`: the form `2001-02-03T04:05:06.7+08:00`.
* `Calendar.ofLenient?`: the forms without an offset, and the bare date.
-/

namespace TriggerCompose.Calendar

/-- A time of day to the millisecond. -/
structure Clock where
  hour : Nat
  minute : Nat
  second : Nat
  millisecond : Nat
  deriving DecidableEq, Repr, Inhabited

namespace Clock

/-- The start of a day. -/
def midnight : Clock where
  hour := 0
  minute := 0
  second := 0
  millisecond := 0

/-- The time of day of four numbers. The second 60 of any minute is taken as the
    second after its last. -/
def ofParts? (hour minute second millisecond : Nat) : Option Clock :=
  if hour ≤ 23 ∧ minute ≤ 59 ∧ second ≤ 60 then some { hour, minute, second, millisecond }
  else none

/-- The milliseconds since midnight. -/
def sinceMidnight (c : Clock) : Nat :=
  ((c.hour * 60 + c.minute) * 60 + c.second) * 1000 + c.millisecond

end Clock

/-- The milliseconds from the epoch to a date and clock that are ahead of universal
    time by a number of minutes. -/
def milliseconds (date : Date) (clock : Clock) (minutesAhead : Int) : Int :=
  date.dayNumber * dayLength + clock.sinceMidnight - minutesAhead * 60000

/-! ### Pieces of texts -/

/-- The number that the digits at the start of a text denote, at most `most` of
    them and at least `least`, and the text after them. -/
def spanNumber? (least most : Nat) (text : List Char) : Option (Nat × List Char) :=
  let digits := (text.takeWhile Char.isDigit).take most
  if digits.length < least then none
  else some (Nat.ofDigitChars 10 digits 0, text.drop digits.length)

/-- The text after one of the given characters. -/
def spanOneOf? (marks : List Char) : List Char → Option (List Char)
  | c :: rest => if marks.contains c then some rest else none
  | [] => none

/-- The whole milliseconds of the fraction that digits after a point denote. -/
def fractionMilliseconds (digits : List Char) : Nat :=
  Nat.ofDigitChars 10 ((digits ++ ['0', '0']).take 3) 0

/-- A point and at least one digit at the start of a text, if there is a point, as
    milliseconds, and the text after them. -/
def spanFraction? : List Char → Option (Nat × List Char)
  | '.' :: rest =>
    let digits := rest.takeWhile Char.isDigit
    if digits.isEmpty then none
    else some (fractionMilliseconds digits, rest.dropWhile Char.isDigit)
  | text => some (0, text)

/-! ### The strict form -/

/-- A date of four, two and two digits at the start of a text. -/
def spanStrictDate? (text : List Char) : Option (Date × List Char) := do
  let (year, text) ← spanNumber? 4 4 text
  let text ← spanOneOf? ['-'] text
  let (month, text) ← spanNumber? 2 2 text
  let text ← spanOneOf? ['-'] text
  let (day, text) ← spanNumber? 2 2 text
  return (← Date.ofParts? year month day, text)

/-- A clock of three times two digits and a fraction at the start of a text. -/
def spanStrictClock? (text : List Char) : Option (Clock × List Char) := do
  let (hour, text) ← spanNumber? 2 2 text
  let text ← spanOneOf? [':'] text
  let (minute, text) ← spanNumber? 2 2 text
  let text ← spanOneOf? [':'] text
  let (second, text) ← spanNumber? 2 2 text
  let (millisecond, text) ← spanFraction? text
  return (← Clock.ofParts? hour minute second millisecond, text)

/-- The minutes of an offset of hours and minutes at the end of a text. -/
def offsetSize? (text : List Char) : Option Int := do
  let (hours, text) ← spanNumber? 2 2 text
  let text ← spanOneOf? [':'] text
  let (minutes, text) ← spanNumber? 2 2 text
  if text.isEmpty ∧ hours ≤ 23 ∧ minutes ≤ 59 then return (hours : Int) * 60 + minutes else none

/-- The minutes by which a clock with this offset is ahead of universal time. The
    letter for universal time itself may be of either case, and the minus sign may
    be a hyphen. -/
def offset? : List Char → Option Int
  | [] => none
  | sign :: rest =>
    if sign == 'Z' || sign == 'z' then if rest.isEmpty then some 0 else none
    else if sign == '+' then offsetSize? rest
    else if sign == '-' || sign == '\u2212' then (offsetSize? rest).map (- ·)
    else none

/-- The point in time of a text with date, clock and offset. A single space may
    stand for the letter between date and clock. -/
def ofStrict? (text : List Char) : Option Int := do
  let (date, text) ← spanStrictDate? text
  let text ← spanOneOf? ['T', 't', ' '] text
  let (clock, text) ← spanStrictClock? text
  return milliseconds date clock (← offset? text)

/-! ### The lenient forms -/

/-- A number of one or two digits after any blanks at the start of a text. -/
def spanLenientNumber? (text : List Char) : Option (Nat × List Char) :=
  spanNumber? 1 2 (Text.trimStart text)

/-- A year after any blanks at the start of a text: up to four digits, or a sign and
    any number of them. -/
def spanLenientYear? (text : List Char) : Option (Int × List Char) :=
  match Text.trimStart text with
  | '-' :: rest => (spanNumber? 1 rest.length rest).map fun (n, rest) => (-(n : Int), rest)
  | '+' :: rest => (spanNumber? 1 rest.length rest).map fun (n, rest) => ((n : Int), rest)
  | text => (spanNumber? 1 4 text).map fun (n, rest) => ((n : Int), rest)

/-- A date at the start of a text. -/
def spanLenientDate? (text : List Char) : Option (Date × List Char) := do
  let (year, text) ← spanLenientYear? text
  let text ← spanOneOf? ['-'] text
  let (month, text) ← spanLenientNumber? text
  let text ← spanOneOf? ['-'] text
  let (day, text) ← spanLenientNumber? text
  return (← Date.ofParts? year month day, text)

/-- The clock that a text consists of. -/
def lenientClock? (text : List Char) : Option Clock := do
  let (hour, text) ← spanLenientNumber? text
  let text ← spanOneOf? [':'] text
  let (minute, text) ← spanLenientNumber? text
  let text ← spanOneOf? [':'] text
  let (second, text) ← spanLenientNumber? text
  let (millisecond, text) ← spanFraction? text
  if text.isEmpty then Clock.ofParts? hour minute second millisecond else none

/-- The clock after a date: any blanks or none, then the clock; or the letter `T`
    and the clock. -/
def clockAfterDate? (text : List Char) : Option Clock :=
  (lenientClock? (Text.trimStart text)).or ((spanOneOf? ['T'] text).bind lenientClock?)

/-- The point in time of a text without an offset, in universal time: a date with a
    clock, or a date alone for its midnight. -/
def ofLenient? (text : List Char) : Option Int := do
  let (date, text) ← spanLenientDate? text
  let clock ← if text.isEmpty then some .midnight else clockAfterDate? text
  return milliseconds date clock 0

end TriggerCompose.Calendar
