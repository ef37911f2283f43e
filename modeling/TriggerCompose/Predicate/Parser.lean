import TriggerCompose.Failure
import TriggerCompose.Predicate.Operator
import TriggerCompose.Text.Quoted

/-!
# Parsing predicate fragments

A fragment holds one predicate: field, operator and value. Its operator is
detected first and decides the shape that the fragment must have. Where the shape
breaks off, the parser reports how far it came and what it expected there.

## Main definitions

* `Predicate`: field, operator and value.
* `Predicate.Stop`: where and why parsing stopped.
* `Predicate.parse`: the predicate of a fragment.
* `Predicate.ParseError.detail`: the report of a failed parse.
-/

namespace TriggerCompose

/-- A query predicate. -/
structure Predicate where
  field : String
  operator : Predicate.Operator
  value : String
  deriving DecidableEq, Repr, Inhabited

namespace Predicate

/-- What was expected where parsing stopped. -/
inductive Expectation where
  | colon
  | value
  | closingParenthesis
  | closingQuote
  | symbol (comparison : Comparison)
  deriving DecidableEq, Repr

/-- An expectation in words. -/
def Expectation.description : Expectation → String
  | colon => "':'"
  | value => "value"
  | closingParenthesis => "')'"
  | closingQuote => "closing quote"
  | symbol comparison => s!"`{String.ofList comparison.symbol}`"

/-- Where parsing stopped: the text that was left, and what was expected, the
    innermost expectation first. -/
structure Stop where
  rest : List Char
  expected : List Expectation
  deriving DecidableEq, Repr

/-- The characters where the field of an equality stops. -/
def fieldStop : List Char := [':', '<', '>', '=', '(', ')']

/-- The characters where the value of an equality stops. -/
def valueStop : List Char := [')']

/-- The characters where an operand of a comparison stops. -/
def compareStop : List Char := ['<', '>', '=', '(', ')']

/-- Reads the field of a predicate. Where none can start, nothing in particular is
    expected. -/
def readField (stop : List Char) (text : List Char) : Except Stop (List Char × List Char) :=
  match operand stop text with
  | .found field rest => .ok (field, rest)
  | .absent => .error { rest := text, expected := [] }
  | .unclosed => .error { rest := [], expected := [.closingQuote] }

/-- Reads the value of a predicate, which has to be there. -/
def readValue (stop : List Char) (text : List Char) : Except Stop (List Char × List Char) :=
  match operand stop text with
  | .found value rest => .ok (value, rest)
  | .absent => .error { rest := text, expected := [.value] }
  | .unclosed => .error { rest := [], expected := [.closingQuote, .value] }

/-- Reads a symbol that has to be there. -/
def readSymbol (symbol : List Char) (expectation : Expectation) (text : List Char) :
    Except Stop (List Char) :=
  match symbol.isPrefixOf? text with
  | some rest => .ok rest
  | none => .error { rest := text, expected := [expectation] }

/-- Reads an equality: field, colon and value, with white space after each. -/
def readEquality (text : List Char) :
    Except Stop ((List Char × List Char) × List Char) := do
  let (field, text) ← readField fieldStop text
  let text ← readSymbol [':'] .colon (skipSpace text)
  let (value, text) ← readValue valueStop (skipSpace text)
  return ((field, value), skipSpace text)

/-- Reads a negation: an equality in parentheses after the word `NOT`. -/
def readNegation (text : List Char) :
    Except Stop ((List Char × List Char) × List Char) := do
  let some text := negationOpen? text | .error { rest := text, expected := [] }
  let (pair, text) ← readEquality (skipSpace text)
  let text ← readSymbol [')'] .closingParenthesis text
  return (pair, skipSpace text)

/-- Reads a comparison: field, symbol and value, with white space after each. -/
def readComparison (comparison : Comparison) (text : List Char) :
    Except Stop ((List Char × List Char) × List Char) := do
  let (field, text) ← readField compareStop text
  let text ← readSymbol comparison.symbol (.symbol comparison) (skipSpace text)
  let (value, text) ← readValue compareStop (skipSpace text)
  return ((field, value), skipSpace text)

/-- Reads the operands of a predicate with a known operator. -/
def readOperands : Operator → List Char → Except Stop ((List Char × List Char) × List Char)
  | .is => readEquality
  | .isNot => readNegation
  | .compare comparison => readComparison comparison

/-- Reads the operands of a predicate with nothing left after them. -/
def readAll (operator : Operator) (text : List Char) : Except Stop (List Char × List Char) := do
  let (pair, rest) ← readOperands operator text
  if rest.isEmpty then return pair else .error { rest, expected := [] }

/-- A fragment that is no predicate: its operator, the fragment as given, and where
    parsing of the trimmed fragment stopped. -/
structure ParseError where
  operator : Operator
  fragment : String
  stop : Stop
  deriving DecidableEq, Repr

/-- The predicate of a fragment. -/
def parse (fragment : String) : Except ParseError Predicate :=
  let operator := Operator.detect fragment.toList
  match readAll operator (Text.trim fragment.toList) with
  | .ok (field, value) =>
    .ok { field := String.ofList field, operator, value := String.ofList value }
  | .error stop => .error { operator, fragment, stop }

/-! ### Reports -/

/-- The number of bytes of a text. -/
def byteLength (text : List Char) : Nat :=
  text.foldl (fun bytes c => bytes + c.utf8Size) 0

/-- The lines of a text. -/
def linesOf (text : List Char) : List (List Char) :=
  text.splitOnP (· == '\n')

/-- A run of spaces. -/
def spaces (count : Nat) : String :=
  String.ofList (List.replicate count ' ')

/-- The expectation line of a report, empty if nothing in particular was expected. -/
def expectationText : List Expectation → String
  | [] => ""
  | expected => "expected " ++ ", ".intercalate (expected.map Expectation.description)

/-- The line and the column, both from zero, at which reading of `text` stopped with
    `rest` left. At the end of the text the position is one past that of the last
    character, even if that is a line feed. A column counts characters, but bytes
    before a character of more than one byte. -/
def position (text rest : List Char) : Nat × Nat :=
  match rest with
  | [] =>
    match text.reverse with
    | [] => (0, 0)
    | _ :: before =>
      let before := before.reverse
      let line := before.reverse.takeWhile (· != '\n')
      (before.count '\n', line.length + 1)
  | next :: _ =>
    let before := text.take (text.length - rest.length)
    let line := (before.reverse.takeWhile (· != '\n'))
    (before.count '\n', if next.utf8Size = 1 then line.length else byteLength line)

/-- The report of a stop in a text of one line: the text, a mark under the place, and
    what was expected. -/
def lineReport (text : List Char) (stop : Stop) : String :=
  s!"{String.ofList text}\n{spaces (byteLength text - byteLength stop.rest)}^\n" ++
    expectationText stop.expected

/-- The report of a stop in a text of several lines: the position, the line with a
    mark under the place, and what was expected. -/
def positionReport (text : List Char) (stop : Stop) : String :=
  let (line, column) := position text stop.rest
  let number := toString (line + 1)
  let gutter := spaces number.length
  let content := String.ofList ((linesOf text)[line]?.getD [])
  s!"parse error at line {number}, column {column + 1}\n" ++
    s!"{gutter} |\n{number} | {content}\n{gutter} | {spaces column}^\n" ++
    expectationText stop.expected

/-- The report of a failed parse. -/
def ParseError.detail (e : ParseError) : String :=
  let text := Text.trim e.fragment.toList
  let report := if text.contains '\n' then positionReport text e.stop else lineReport text e.stop
  s!"{e.operator.name} predicate {Text.quoted e.fragment}: {report}"

/-- The failure that reports a failed parse. -/
def ParseError.failure (e : ParseError) : Failure where
  reason := .predicate
  detail := e.detail

end Predicate

end TriggerCompose
