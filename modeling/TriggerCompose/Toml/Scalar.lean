import TriggerCompose.Calendar.Timestamp
import TriggerCompose.Number.Word
import TriggerCompose.Toml.Value

/-!
# TOML scalars without quotes

Truth values, numbers, dates and times. All of them are recognised on a run of
characters that is cut out of the text first.

## Main definitions

* `Toml.integer?`, `Toml.float?`: numbers, with underscores between digits.
* `Toml.isDateTime`: dates, times and both together.
* `Toml.scalar?`: the scalar that a run is.
* `Toml.spanScalar?`: a scalar at the start of a text.
-/

namespace TriggerCompose.Toml

open Calendar (spanNumber? spanOneOf?)

/-- Digits with single underscores between them, without the underscores. -/
def plainDigits? (isDigit : Char → Bool) (text : List Char) : Option (List Char) :=
  let runs := text.splitOnP (· == '_')
  if runs.all fun run => ! run.isEmpty && run.all isDigit then some runs.flatten else none

/-- The digits of a whole number, which has no superfluous leading zero. -/
def wholeDigits? (text : List Char) : Option (List Char) := do
  let digits ← plainDigits? Char.isDigit text
  if digits.head? = some '0' ∧ digits.length ≠ 1 then none else return digits

/-- A number in a base that is marked in front of it. -/
def basedInteger? (base : Nat) (text : List Char) : Option Int := do
  let isDigit := fun c => (Number.hexDigit? c).any (· < base)
  let digits ← plainDigits? isDigit text
  let values ← digits.mapM Number.hexDigit?
  return (values.foldl (fun n value => base * n + value) 0 : Nat)

/-- The integer of a run, which has to fit 128 bits. -/
def integer? (run : List Char) : Option Int := do
  let n ← match run with
    | '0' :: 'x' :: digits => basedInteger? 16 digits
    | '0' :: 'o' :: digits => basedInteger? 8 digits
    | '0' :: 'b' :: digits => basedInteger? 2 digits
    | _ => do
      let (negative, digits) := Decimal.spanSign run
      let size : Int := Nat.ofDigitChars 10 (← wholeDigits? digits) 0
      some (if negative then -size else size)
  if -(1 <<< 127 : Nat) ≤ n ∧ n < (1 <<< 128 : Nat) then return n else none

/-- A character of digit runs. -/
def isDigitOrLow (c : Char) : Bool :=
  c.isDigit || c == '_'

/-- The text after an exponent that is well formed: a sign that may be absent, and
    digits up to the end. -/
def isExponent (text : List Char) : Bool :=
  (plainDigits? Char.isDigit (Decimal.spanSign text).2).isSome

/-- What follows the whole digits of a float: a point and digits, an exponent, or
    both. -/
def isFloatTail : List Char → Bool
  | [] => false
  | mark :: rest =>
    if mark == '.' then
      (plainDigits? Char.isDigit (rest.takeWhile isDigitOrLow)).isSome &&
        match rest.dropWhile isDigitOrLow with
        | [] => true
        | mark :: exponent => (mark == 'e' || mark == 'E') && isExponent exponent
    else (mark == 'e' || mark == 'E') && isExponent rest

/-- The float of a run: one of the two words in lower case, or a whole number with a
    fraction or an exponent. -/
def float? (run : List Char) : Option Double :=
  let unsigned := (Decimal.spanSign run).2
  if unsigned == ['i', 'n', 'f'] || unsigned == ['n', 'a', 'n'] then Double.ofText? run
  else if (wholeDigits? (unsigned.takeWhile isDigitOrLow)).isSome &&
      isFloatTail (unsigned.dropWhile isDigitOrLow) then
    Double.ofText? (run.filter (· != '_'))
  else none

/-- The text after a time of day: hours and minutes, then seconds, which may be absent,
    and a fraction of them. -/
def spanTime? (text : List Char) : Option (List Char) := do
  let (hour, text) ← spanNumber? 2 2 text
  let text ← spanOneOf? [':'] text
  let (minute, text) ← spanNumber? 2 2 text
  let (second, text) ← match text with
    | ':' :: rest => do
      let (second, rest) ← spanNumber? 2 2 rest
      let (_, rest) ← Calendar.spanFraction? rest
      some (second, rest)
    | text => some (0, text)
  let _ ← Calendar.Clock.ofParts? hour minute second 0
  return text

/-- A run that is a date, a time, or a date and a time with or without an offset. -/
def isDateTime (run : List Char) : Bool :=
  match Calendar.spanStrictDate? run with
  | some (_, []) => true
  | some (_, rest) =>
    match (spanOneOf? ['T', 't', ' '] rest).bind spanTime? with
    | some rest => rest.isEmpty || (Calendar.offset? rest).isSome
    | none => false
  | none => spanTime? run == some []

/-- The scalar that a run of characters is. -/
def scalar? (run : List Char) : Option Toml :=
  if run == ['t', 'r', 'u', 'e'] then some (.boolean true)
  else if run == ['f', 'a', 'l', 's', 'e'] then some (.boolean false)
  else if isDateTime run then some (.dateTime (String.ofList run))
  else ((integer? run).map .integer).or ((float? run).map .float)

/-- A character of a run. -/
def isRunChar (c : Char) : Bool :=
  c.isAlphanum || c == '_' || c == '+' || c == '-' || c == '.' || c == ':'

/-- The run at the start of a text, and the text after it. A space after a date does
    not end the run if a digit follows. -/
def spanRun (text : List Char) : List Char × List Char :=
  let run := text.takeWhile isRunChar
  let rest := text.dropWhile isRunChar
  match Calendar.spanStrictDate? run, rest with
  | some (_, []), ' ' :: next :: rest =>
    if next.isDigit then
      (run ++ ' ' :: (next :: rest).takeWhile isRunChar, (next :: rest).dropWhile isRunChar)
    else (run, ' ' :: next :: rest)
  | _, rest => (run, rest)

/-- A scalar at the start of a text, and the text after it. -/
def spanScalar? (text : List Char) : Option (Toml × List Char) :=
  (scalar? (spanRun text).1).map fun value => (value, (spanRun text).2)

end TriggerCompose.Toml
