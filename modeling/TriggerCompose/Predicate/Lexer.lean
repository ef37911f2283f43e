import TriggerCompose.Text.Blank

/-!
# Lexemes of predicate fragments

The pieces of which query predicates are made. Each lexer reads from the front of
a text and says what became of it: a lexeme with the text after it, nothing read,
or an opening quote that nothing closes.

## Main definitions

* `Predicate.Lexed`: what became of a lexer's input.
* `Predicate.quoted`, `Predicate.bare`, `Predicate.operand`: operands.
* `Predicate.skipSpace`: the white space between lexemes.
* `Predicate.keyword`: a whole word.
-/

namespace TriggerCompose.Predicate

/-- What became of the input of a lexer: a lexeme and the text after it; nothing,
    with the input as it was; or an opening quote with no closing one, which uses
    up the input. -/
inductive Lexed (α : Type) where
  | found (lexeme : α) (rest : List Char)
  | absent
  | unclosed
  deriving DecidableEq, Repr

/-- The character that opens and closes a quoted operand. -/
def quote : Char := '\x22'

/-- An operand between quotes, without them. There are no escapes, so the next
    quote closes it. -/
def quoted : List Char → Lexed (List Char)
  | [] => .absent
  | c :: rest =>
    if c == quote then
      match rest.dropWhile (· != quote) with
      | _ :: after => .found (rest.takeWhile (· != quote)) after
      | [] => .unclosed
    else .absent

/-- A character that a bare operand may hold: neither blank nor a quote, and none of
    the characters where the operand stops. -/
def isBare (stop : List Char) (c : Char) : Bool :=
  ! Text.isBlank c && c != quote && ! stop.contains c

/-- The longest non-empty run of bare characters. -/
def bare (stop : List Char) (text : List Char) : Lexed (List Char) :=
  match text.takeWhile (isBare stop) with
  | [] => .absent
  | lexeme => .found lexeme (text.dropWhile (isBare stop))

/-- A quoted operand, or else a bare one. -/
def operand (stop : List Char) (text : List Char) : Lexed (List Char) :=
  match quoted text with
  | .absent => bare stop text
  | lexed => lexed

/-- The white space of fragments: space, tab, carriage return and line feed. -/
def isSpace (c : Char) : Bool :=
  c == ' ' || c == '\t' || c == '\r' || c == '\n'

/-- A text without the white space at its start. -/
def skipSpace (text : List Char) : List Char :=
  text.dropWhile isSpace

/-- A character that continues an identifier. -/
def continuesWord (c : Char) : Bool :=
  c.isAlphanum || c == '_'

/-- A word that is not the start of a longer identifier. -/
def keyword (word text : List Char) : Lexed Unit :=
  match word.isPrefixOf? text with
  | none => .absent
  | some rest => if rest.head?.any continuesWord then .absent else .found () rest

end TriggerCompose.Predicate
