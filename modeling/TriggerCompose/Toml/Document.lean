import TriggerCompose.Toml.Literal
import TriggerCompose.Toml.Scalar
import TriggerCompose.Toml.Table

/-!
# TOML documents

A document is a list of statements: headers, and keys with their values. The
statements are read one after the other, and then build one table.

## Main definitions

* `Toml.spanKey?`: a dotted key.
* `Toml.spanValue?`: a value, nested to a bounded depth.
* `Toml.Statement`: a header or an assignment.
* `Toml.ofText?`: the table of a document.
-/

namespace TriggerCompose.Toml

/-! ### Keys -/

/-- A character of a key without quotes. -/
def isKeyChar (c : Char) : Bool :=
  c.isAlphanum || c == '_' || c == '-'

/-- One part of a dotted key at the start of a text. -/
def spanKeyPart? (text : List Char) : Option (String × List Char) :=
  match text.takeWhile isKeyChar with
  | [] => spanLine? text
  | chars => some (String.ofList chars, text.dropWhile isKeyChar)

/-- A dotted key, as the parts before the last one and the last one. -/
structure Key where
  path : List String
  last : String

/-- A dotted key of at most `fuel` parts at the start of a text, and the text after it
    and the blanks that follow. -/
def spanKeyUpTo? : Nat → List Char → Option (Key × List Char)
  | 0, _ => none
  | fuel + 1, text => do
    let (part, text) ← spanKeyPart? (text.dropWhile isSpace)
    match text.dropWhile isSpace with
    | '.' :: rest => do
      let (key, rest) ← spanKeyUpTo? fuel rest
      return ({ key with path := part :: key.path }, rest)
    | rest => return ({ path := [], last := part }, rest)

/-- A dotted key at the start of a text. -/
def spanKey? (text : List Char) : Option (Key × List Char) :=
  spanKeyUpTo? text.length text

/-! ### Values -/

/-- A text without the blanks, line ends and comments at its start. -/
def skipLines : (inComment : Bool) → List Char → List Char
  | _, [] => []
  | true, c :: rest => skipLines (c != '\n') rest
  | false, c :: rest =>
    if c == '#' then skipLines true rest
    else if isSpace c || c == '\n' then skipLines false rest
    else c :: rest

/-- The items of a bracketed list up to its closing bracket, at most `fuel` of them,
    with commas between them and at most one after the last. -/
def spanItems? {α : Type} (item? : List Char → Option (α × List Char)) (close : Char) :
    Nat → List Char → Option (List α × List Char)
  | 0, _ => none
  | fuel + 1, text =>
    match skipLines false text with
    | [] => none
    | c :: rest =>
      if c == close then some ([], rest)
      else do
        let (item, text) ← item? (c :: rest)
        match skipLines false text with
        | [] => none
        | c :: rest =>
          if c == close then some ([item], rest)
          else if c == ',' then
            (spanItems? item? close fuel rest).map fun (items, rest) => (item :: items, rest)
          else none

/-- A key, an equals sign and a value. -/
def spanAssignment? (value? : List Char → Option (Toml × List Char)) (text : List Char) :
    Option ((Key × Toml) × List Char) := do
  let (key, text) ← spanKey? text
  let text ← Calendar.spanOneOf? ['='] text
  let (value, text) ← value? (text.dropWhile isSpace)
  return ((key, value), text)

/-- The table of a list of assignments. -/
def ofAssignments? (assignments : List (Key × Toml)) : Option Toml := do
  let entries ← assignments.foldlM (fun entries (key, value) =>
    assign? key.last value key.path entries) []
  return ofNodes entries

/-- A value at the start of a text, with at most `depth` brackets open at a time. -/
def spanValue? : (depth : Nat) → List Char → Option (Toml × List Char)
  | _, [] => none
  | depth, c :: rest =>
    if c == doubleQuote || c == singleQuote then
      (spanString? (c :: rest)).map fun (s, rest) => (.string s, rest)
    else if c == '[' then
      match depth with
      | 0 => none
      | depth + 1 => do
        let (items, rest) ← spanItems? (spanValue? depth) ']' (rest.length + 1) rest
        return (.array items, rest)
    else if c == '\x7b' then
      match depth with
      | 0 => none
      | depth + 1 => do
        let (assignments, rest) ←
          spanItems? (spanAssignment? (spanValue? depth)) '\x7d' (rest.length + 1) rest
        return (← ofAssignments? assignments, rest)
    else spanScalar? (c :: rest)

/-- How many brackets may be open at a time. -/
def maxDepth : Nat := 80

/-! ### Statements -/

/-- A statement of a document. -/
inductive Statement where
  | table (key : Key)
  | item (key : Key)
  | assignment (key : Key) (value : Toml)

/-- The text after the rest of a line that holds nothing but a comment. -/
def endLine? (text : List Char) : Option (List Char) :=
  match text.dropWhile isSpace with
  | [] => some []
  | c :: rest => if c == '#' || c == '\n' then some (skipLines true (c :: rest)) else none

/-- A statement at the start of a text. -/
def spanStatement? : List Char → Option (Statement × List Char)
  | '[' :: '[' :: rest => do
    let (key, rest) ← spanKey? rest
    match rest with
    | ']' :: ']' :: rest => some (.item key, rest)
    | _ => none
  | '[' :: rest => do
    let (key, rest) ← spanKey? rest
    match rest with
    | ']' :: rest => some (.table key, rest)
    | _ => none
  | text => do
    let ((key, value), rest) ← spanAssignment? (spanValue? maxDepth) text
    return (.assignment key value, rest)

/-- The statements of a text, at most `fuel` of them. -/
def statementsUpTo? : Nat → List Char → Option (List Statement)
  | fuel, text =>
    match skipLines false text with
    | [] => some []
    | c :: rest =>
      match fuel with
      | 0 => none
      | fuel + 1 => do
        let (statement, rest) ← spanStatement? (c :: rest)
        let statements ← statementsUpTo? fuel (← endLine? rest)
        return statement :: statements

/-- Builds the table of statements. Assignments go to the table that the last header
    opened. -/
def build? : (path : List String) → Entries → List Statement → Option Entries
  | _, entries, [] => some entries
  | _, entries, .table key :: rest => do
    build? (key.path ++ [key.last]) (← within? (openTable? key.last) key.path entries) rest
  | _, entries, .item key :: rest => do
    build? (key.path ++ [key.last]) (← within? (openItem? key.last) key.path entries) rest
  | path, entries, .assignment key value :: rest => do
    build? path (← within? (assign? key.last value key.path) path entries) rest

/-- The table of a document. -/
def ofText? (text : String) : Option Toml := do
  let text ← normalized? text.toList
  let statements ← statementsUpTo? (text.length + 1) text
  return ofNodes (← build? [] [] statements)

end TriggerCompose.Toml
