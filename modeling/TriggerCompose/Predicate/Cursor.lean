import TriggerCompose.Predicate.Parser

/-!
# Lexers on a cursor

The lexers of fragments as programs on a cursor. They share one, the text that is still
to be read, and each of them moves it forward or gives up. A lexer that gives up leaves
the cursor wherever it stands then, so one that another may follow has to see to it
itself that nothing is lost.

The lexers are put together of a few parser combinators. These are a parameter, with what
they are documented to do as its laws.

## Main definitions

* `Predicate.CursorLexer`: a program on the cursor.
* `Predicate.Combinators`, `Predicate.Combinators.Documented`: the combinators and their laws.
* `Predicate.Combinators.quoted`, `Predicate.Combinators.bare`,
  `Predicate.Combinators.operand`, `Predicate.Combinators.skipSpace`,
  `Predicate.Combinators.keyword`: the lexers.
* `Predicate.Combinators.standard`: combinators that keep the laws.
-/

namespace TriggerCompose.Predicate

/-- How a lexer gives up, with what it expected, the innermost expectation first:
    another one may be tried instead, or none may. -/
inductive Refusal where
  | backtrack (expected : List Expectation)
  | cut (expected : List Expectation)
  deriving DecidableEq, Repr

/-- The refusal after which nothing else is tried. -/
def Refusal.final : Refusal → Refusal
  | backtrack expected => cut expected
  | cut expected => cut expected

/-- The refusal with one more expectation around it. -/
def Refusal.expecting (expectation : Expectation) : Refusal → Refusal
  | backtrack expected => backtrack (expected ++ [expectation])
  | cut expected => cut (expected ++ [expectation])

/-- A program on the cursor, the text that is left. A refusal does not undo what the
    program did to it. -/
abbrev CursorLexer (α : Type) := EStateM Refusal (List Char) α

/-- Parser combinators on a cursor. -/
structure Combinators where
  /-- Reads a given text. -/
  literal : List Char → CursorLexer Unit
  /-- Reads the longest run of such characters, of at least so many. -/
  takeWhile : Nat → (Char → Bool) → CursorLexer (List Char)
  /-- Reads white space, of which there may be none. -/
  multispace : CursorLexer (List Char)
  /-- Runs the second lexer in place of the first where that one backtracks. -/
  alt {α : Type} : CursorLexer α → CursorLexer α → CursorLexer α
  /-- Makes every refusal final. -/
  cutErr {α : Type} : CursorLexer α → CursorLexer α
  /-- Says what was expected where the lexer gives up. -/
  context {α : Type} : Expectation → CursorLexer α → CursorLexer α

namespace Combinators

/-- What the combinators are documented to do. One that refuses leaves the cursor where
    the text is not as it should be. -/
structure Documented (lib : Combinators) : Prop where
  literal_append (symbol rest : List Char) : lib.literal symbol (symbol ++ rest) = .ok () rest
  literal_refused {symbol text : List Char} (habsent : ¬ symbol <+: text) :
    lib.literal symbol text = .error (.backtrack []) text
  takeWhile_found {least : Nat} {p : Char → Bool} {text : List Char}
    (hleast : least ≤ (text.takeWhile p).length) :
    lib.takeWhile least p text = .ok (text.takeWhile p) (text.dropWhile p)
  takeWhile_refused {least : Nat} {p : Char → Bool} {text : List Char}
    (hleast : (text.takeWhile p).length < least) :
    lib.takeWhile least p text = .error (.backtrack []) text
  multispace_eq (text : List Char) :
    lib.multispace text = .ok (text.takeWhile isSpace) (text.dropWhile isSpace)
  alt_ok {α : Type} {first second : CursorLexer α} {text left : List Char} {a : α}
    (hfirst : first text = .ok a left) : lib.alt first second text = .ok a left
  alt_cut {α : Type} {first second : CursorLexer α} {text left : List Char}
    {expected : List Expectation} (hfirst : first text = .error (.cut expected) left) :
    lib.alt first second text = .error (.cut expected) left
  alt_backtrack {α : Type} {first second : CursorLexer α} {text left : List Char}
    {expected : List Expectation} (hfirst : first text = .error (.backtrack expected) left) :
    lib.alt first second text = second text
  cutErr_ok {α : Type} {lexer : CursorLexer α} {text left : List Char} {a : α}
    (hlexer : lexer text = .ok a left) : lib.cutErr lexer text = .ok a left
  cutErr_error {α : Type} {lexer : CursorLexer α} {text left : List Char} {refusal : Refusal}
    (hlexer : lexer text = .error refusal left) :
    lib.cutErr lexer text = .error refusal.final left
  context_ok {α : Type} {lexer : CursorLexer α} {text left : List Char} {a : α}
    {expectation : Expectation} (hlexer : lexer text = .ok a left) :
    lib.context expectation lexer text = .ok a left
  context_error {α : Type} {lexer : CursorLexer α} {text left : List Char} {refusal : Refusal}
    {expectation : Expectation} (hlexer : lexer text = .error refusal left) :
    lib.context expectation lexer text = .error (refusal.expecting expectation) left

/-! ### The lexers -/

variable (lib : Combinators)

/-- An operand between quotes, without them. Behind the opening quote there is no way
    back. -/
def quoted : CursorLexer (List Char) := do
  lib.literal [quote]
  let content ← lib.takeWhile 0 (· != quote)
  lib.context .closingQuote (lib.cutErr (lib.literal [quote]))
  return content

/-- The longest non-empty run of bare characters. -/
def bare (stop : List Char) : CursorLexer (List Char) :=
  lib.takeWhile 1 (isBare stop)

/-- A quoted operand, or else a bare one. -/
def operand (stop : List Char) : CursorLexer (List Char) :=
  lib.alt lib.quoted (lib.bare stop)

/-- The white space between lexemes. -/
def skipSpace : CursorLexer Unit := do
  let _ ← lib.multispace

/-- A word that is not the start of a longer identifier. Where it is, the cursor is put
    back by hand. -/
def keyword (word : List Char) : CursorLexer Unit := do
  let saved ← get
  lib.literal word
  let text ← get
  if text.head?.any continuesWord then
    set saved
    throw (.backtrack [])

/-! ### Combinators that keep the laws -/

/-- Each combinator as its law says. -/
def standard : Combinators where
  literal symbol := fun text =>
    match symbol.isPrefixOf? text with
    | some rest => .ok () rest
    | none => .error (.backtrack []) text
  takeWhile least p := fun text =>
    if least ≤ (text.takeWhile p).length then .ok (text.takeWhile p) (text.dropWhile p)
    else .error (.backtrack []) text
  multispace := fun text => .ok (text.takeWhile isSpace) (text.dropWhile isSpace)
  alt first second := fun text =>
    match first text with
    | .error (.backtrack _) _ => second text
    | result => result
  cutErr lexer := fun text =>
    match lexer text with
    | .error refusal left => .error refusal.final left
    | result => result
  context expectation lexer := fun text =>
    match lexer text with
    | .error refusal left => .error (refusal.expecting expectation) left
    | result => result

end Combinators

end TriggerCompose.Predicate
