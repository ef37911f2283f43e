import TriggerCompose.Calendar.Timestamp
import TriggerCompose.Json.Value
import TriggerCompose.Number.Word

/-!
# Cells of query results

What a cell of a result says as a point in time, and what it says as a count. A
service may give either as a number or as a text.

## Main definitions

* `Preview.Cell.key?`: a cell as milliseconds since the epoch.
* `Preview.Cell.count?`: a cell as a number of documents.
-/

namespace TriggerCompose.Preview.Cell

/-- The point in time of a double: its whole part, if the double is between the least
    word and the largest one, both rounded to doubles. -/
def keyOfDouble? : Double → Option Int64
  | .finite x =>
    if x.magnitude.units ≤ Magnitude.unitsPerOne <<< 63 then some (Int64.ofIntClamp x.truncate)
    else none
  | _ => none

/-- The point in time of a trimmed text: an integer, a double, or a timestamp in one of
    its forms. -/
def keyOfText? (text : List Char) : Option Int64 :=
  (Number.signed? text).or <|
    ((Double.ofText? text).bind keyOfDouble?).or <|
      ((Calendar.ofStrict? text).or (Calendar.ofLenient? text)).map Int64.ofInt

/-- The point in time that a cell gives. -/
def key? : Json → Option Int64
  | .number n => n.int64?.or (keyOfDouble? n.double)
  | .string s => keyOfText? (Text.trim s.toList)
  | _ => none

/-- The count of a double that is not negative: the nearest whole number, at most the
    largest word. A negative zero is no count below zero. -/
def countOfDouble? : Double → Option UInt64
  | .finite x =>
    if x.negative ∧ x.magnitude ≠ Magnitude.zero then none
    else some (UInt64.ofNatClamp x.magnitude.round)
  | _ => none

/-- The count of a trimmed text: an unsigned integer or a double. -/
def countOfText? (text : List Char) : Option UInt64 :=
  (Number.unsigned? text).or ((Double.ofText? text).bind countOfDouble?)

/-- The count that a cell gives. -/
def count? : Json → Option UInt64
  | .number n => n.uint64?.or (countOfDouble? n.double)
  | .string s => countOfText? (Text.trim s.toList)
  | _ => none

end TriggerCompose.Preview.Cell
