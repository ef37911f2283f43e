import TriggerCompose.Number.Word
import TriggerCompose.Text.Blank
import TriggerCompose.Text.Quoted

/-!
# Durations

A duration is a whole number of seconds, written as a number and a unit, such as
`90m`. It is shown with the largest unit that divides it, which is also the form of
a span in queries.

## Main definitions

* `Duration`: a number of seconds.
* `Duration.Unit`: the four units.
* `Duration.parse`: the duration of a text.
* `Duration.display`: the text of a duration.
* `Duration.milliseconds`: the width in milliseconds, cut off at the largest word.
-/

namespace TriggerCompose

/-- A whole number of seconds. -/
structure Duration where
  seconds : UInt64
  deriving DecidableEq, Repr, Inhabited

namespace Duration

/-- The units of durations. -/
inductive Unit where
  | day
  | hour
  | minute
  | second
  deriving DecidableEq, Repr

namespace Unit

/-- The letter of a unit. -/
def letter : Unit → Char
  | day => 'd'
  | hour => 'h'
  | minute => 'm'
  | second => 's'

/-- The length of a unit in seconds. -/
def seconds : Unit → Nat
  | day => 86400
  | hour => 3600
  | minute => 60
  | second => 1

/-- The units, the largest first. -/
def all : List Unit := [day, hour, minute, second]

/-- The unit of a text. -/
def ofText? (text : List Char) : Option Unit :=
  all.find? fun unit => text == [unit.letter]

end Unit

/-- Why a text is no duration. -/
inductive Fault where
  | noUnit
  | noNumber
  | numberTooLarge
  | unknownUnit (unit : String)
  | overflow
  deriving DecidableEq, Repr

/-- What is said of a text that is no duration. -/
def Fault.message (text : String) : Fault → String
  | noUnit => s!"duration {Text.quoted text} needs a unit suffix (s/m/h/d)"
  | noNumber => s!"duration {Text.quoted text} has no numeric part"
  | numberTooLarge => s!"invalid number in duration {Text.quoted text}"
  | unknownUnit unit => s!"unsupported unit {Text.quoted unit} in duration {Text.quoted text}"
  | overflow => s!"duration {Text.quoted text} overflows"

/-- The duration of a trimmed text: ASCII digits, then a unit. The number and the
    product with the unit both have to fit a word. -/
def parseTrimmed (text : List Char) : Except Fault Duration :=
  let digits := text.takeWhile Char.isDigit
  let unit := text.dropWhile Char.isDigit
  if unit.isEmpty then .error .noUnit
  else if digits.isEmpty then .error .noNumber
  else
    let value := Nat.ofDigitChars 10 digits 0
    if UInt64.size ≤ value then .error .numberTooLarge
    else
      match Unit.ofText? unit with
      | none => .error (.unknownUnit (String.ofList unit))
      | some unit =>
        if UInt64.size ≤ value * unit.seconds then .error .overflow
        else .ok ⟨UInt64.ofNat (value * unit.seconds)⟩

/-- The duration of a text, blank characters around it aside. -/
def parse (text : String) : Except Fault Duration :=
  parseTrimmed (Text.trim text.toList)

/-- What is said of a text that is no duration; it is shown trimmed. -/
def report (text : String) (fault : Fault) : String :=
  fault.message (Text.trimmed text)

/-- The unit in which a number of seconds is shown: the largest that divides it. -/
def displayUnit (seconds : Nat) : Unit :=
  (Unit.all.find? fun unit => seconds % unit.seconds = 0).getD .second

/-- The text of a duration. None at all is shown in seconds. -/
def displayChars (d : Duration) : List Char :=
  if d.seconds = 0 then ['0', 's']
  else
    let unit := displayUnit d.seconds.toNat
    Nat.toDigits 10 (d.seconds.toNat / unit.seconds) ++ [unit.letter]

/-- The text of a duration. -/
def display (d : Duration) : String :=
  String.ofList d.displayChars

/-- The width in milliseconds, at most the largest signed word. -/
def milliseconds (d : Duration) : Int64 :=
  Int64.ofIntClamp (1000 * d.seconds.toNat)

/-- No time at all. -/
def isZero (d : Duration) : Bool :=
  d.seconds == 0

end Duration

end TriggerCompose
