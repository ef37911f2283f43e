import TriggerCompose.Preview.Table
import TriggerCompose.Text.Search

/-!
# Choosing columns

Which column of a table holds the bucket keys, and which one the counts. Each choice
goes through tests in a fixed order, and takes the leftmost column that passes the
first test that any column passes.

## Main definitions

* `Preview.keyTests`, `Preview.countTests`: the tests.
* `Preview.keyColumn?`: the position of the key column.
* `Preview.countColumn?`: the position of the count column, another one.
-/

namespace TriggerCompose.Preview

/-- A name that mentions a bucket or a window, in any case. -/
def mentionsBucket (name : String) : Bool :=
  let folded := name.toList.map Text.foldLetter
  Text.occursIn "bucket".toList folded || Text.occursIn "window".toList folded

/-- A type that mentions a timestamp, in any ASCII case. -/
def mentionsTimestamp (type : String) : Bool :=
  Text.occursIn "timestamp".toList (Text.lowerAscii type).toList

/-- The tests for the key column: the name of a span, a call of it, a mention of a
    bucket in the name, a mention of a timestamp in the type, and the name of a
    timestamp candidate. -/
def keyTests (candidates : List String) : List (Column → Bool) :=
  [fun c => c.name == "span",
    fun c => "span(".toList.isPrefixOf c.name.toList,
    fun c => mentionsBucket c.name,
    fun c => c.type?.any mentionsTimestamp,
    fun c => candidates.contains c.name]

/-- The tests for the count column: the usual names of a count, and then the names
    that may stand for one. -/
def countTests : List (Column → Bool) :=
  [fun c => c.name == "count" || c.name == "count()",
    fun c => c.name == "doc_count" || c.name == "total" ||
      "value".toList.isSuffixOf c.name.toList]

/-- The position of the leftmost column that passes a test and whose position is not
    `taken`. -/
def leftmost? (taken? : Option Nat) (schema : List Column) (test : Column → Bool) :
    Option Nat :=
  schema.zipIdx.findSome? fun (column, index) =>
    if taken? ≠ some index ∧ test column then some index else none

/-- The position of the key column. -/
def keyColumn? (schema : List Column) (candidates : List String) : Option Nat :=
  (keyTests candidates).findSome? (leftmost? none schema)

/-- The position of the count column, which is not the key column. -/
def countColumn? (schema : List Column) (key? : Option Nat) : Option Nat :=
  countTests.findSome? (leftmost? key? schema)

end TriggerCompose.Preview
