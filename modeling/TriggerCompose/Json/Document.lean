import TriggerCompose.Json.Token
import TriggerCompose.SortedMap

/-!
# JSON documents

What a JSON text says before it is valued. A document keeps the members of an
object as they were written, repeated keys included, and leaves whose value is
missing. Only what a decoder asks for is valued, so an unknown member may hold
what no value can.

## Main definitions

* `Json.Document`: the tree of a text.
* `Json.Document.ofText?`: the document of a text.
* `Json.Document.value?`: the value of a document, nested to a bounded depth.
* `Json.Document.ofValue`: a value as a document.
-/

namespace TriggerCompose.Json

/-- The tree of a JSON text. -/
inductive Document where
  | null
  | boolean (value : Bool)
  | number (value? : Option Json.Number)
  | string (value? : Option String)
  | array (items : List Document)
  | object (members : List (Option String × Document))

namespace Document

instance : Inhabited Document := ⟨null⟩

/-- A container that is still open: an array with its items so far, or an object
    with its members so far and the key whose value is being read. Both lists are
    in reverse. -/
inductive Frame where
  | items (done : List Document)
  | member (done : List (Option String × Document)) (key? : Option String)

/-- What may come next: a value, the first item of an array or its end, the first
    key of an object or its end, a key after a comma, the colon after a key, or
    what follows a finished value. -/
inductive Expecting where
  | value
  | firstItem
  | firstKey (done : List (Option String × Document))
  | key (done : List (Option String × Document))
  | colon (done : List (Option String × Document)) (key? : Option String)
  | afterValue (value : Document)

/-- The leaf that a token is, if it is one. -/
def leaf? : Token → Option Document
  | .null => some null
  | .boolean b => some (boolean b)
  | .number n => some (number n)
  | .string s => some (string s)
  | _ => none

/-- Reads one token where a value is expected. -/
def stepValue (token : Token) (stack : List Frame) : Option (Expecting × List Frame) :=
  match token with
  | .openBracket => some (.firstItem, stack)
  | .openBrace => some (.firstKey [], stack)
  | token => (leaf? token).map fun value => (.afterValue value, stack)

/-- Reads one token after a finished value: a comma or the end of the container. -/
def stepAfter (value : Document) (token : Token) : List Frame → Option (Expecting × List Frame)
  | .items done :: stack =>
    match token with
    | .comma => some (.value, .items (value :: done) :: stack)
    | .closeBracket => some (.afterValue (array (value :: done).reverse), stack)
    | _ => none
  | .member done key? :: stack =>
    match token with
    | .comma => some (.key ((key?, value) :: done), stack)
    | .closeBrace => some (.afterValue (object ((key?, value) :: done).reverse), stack)
    | _ => none
  | [] => none

/-- Reads one token. -/
def step (token : Token) : Expecting → List Frame → Option (Expecting × List Frame)
  | .value, stack => stepValue token stack
  | .firstItem, stack =>
    match token with
    | .closeBracket => some (.afterValue (array []), stack)
    | token => stepValue token (.items [] :: stack)
  | .firstKey done, stack =>
    match token with
    | .closeBrace => some (.afterValue (object done.reverse), stack)
    | .string key? => some (.colon done key?, stack)
    | _ => none
  | .key done, stack =>
    match token with
    | .string key? => some (.colon done key?, stack)
    | _ => none
  | .colon done key?, stack =>
    match token with
    | .colon => some (.value, .member done key? :: stack)
    | _ => none
  | .afterValue value, stack => stepAfter value token stack

/-- Reads the remaining tokens; the text ends after one value with nothing open. -/
def run? : List Token → Expecting → List Frame → Option Document
  | [], .afterValue value, [] => some value
  | [], _, _ => none
  | token :: tokens, expecting, stack => do
    let (expecting, stack) ← step token expecting stack
    run? tokens expecting stack

/-- The document of a text. -/
def ofText? (text : String) : Option Document := do
  run? (← Token.scan? text.toList) .value []

mutual

/-- The value of a document in which at most `depth` containers are nested. Of the
    members with one key the last stands, and members are put in ascending order of
    keys. -/
def value? : (depth : Nat) → Document → Option Json
  | _, null => some .null
  | _, boolean b => some (.boolean b)
  | _, number n => n.map .number
  | _, string s => s.map .string
  | 0, array _ => none
  | depth + 1, array items => (values? depth items).map .array
  | 0, object _ => none
  | depth + 1, object members => (members? depth members []).map .object

/-- The values of the items of an array. -/
def values? : (depth : Nat) → List Document → Option (List Json)
  | _, [] => some []
  | depth, item :: items => do
    let value ← value? depth item
    let values ← values? depth items
    return value :: values

/-- The members of an object, put in order one after the other into `done`. -/
def members? : (depth : Nat) → List (Option String × Document) → List (String × Json) →
    Option (List (String × Json))
  | _, [], done => some done
  | depth, (key?, item) :: members, done => do
    let key ← key?
    let value ← value? depth item
    members? depth members (SortedMap.insertEntry key value done)

end

/-- How many containers of a text may be nested. -/
def maxDepth : Nat := 127

mutual

/-- A value as a document. -/
def ofValue : Json → Document
  | .null => null
  | .boolean b => boolean b
  | .number n => number (some n)
  | .string s => string (some s)
  | .array items => array (ofValues items)
  | .object members => object (ofMembers members)

/-- Values as documents. -/
def ofValues : List Json → List Document
  | [] => []
  | item :: items => ofValue item :: ofValues items

/-- Members as documents. -/
def ofMembers : List (String × Json) → List (Option String × Document)
  | [] => []
  | (key, value) :: members => (some key, ofValue value) :: ofMembers members

end

end Document

/-- The value of a JSON text. -/
def ofText? (text : String) : Option Json := do
  (← Document.ofText? text).value? Document.maxDepth

end TriggerCompose.Json
