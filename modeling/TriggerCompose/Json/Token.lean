import TriggerCompose.Json.Value
import TriggerCompose.Number.Word

/-!
# Tokens of JSON texts

The lexical level of JSON. A string token keeps apart what can be read and what
can be valued: a string with half of a surrogate pair, or a number beyond the
doubles, is a token whose value is missing.

## Main definitions

* `Json.Token`: punctuation, words, numbers and strings.
* `Json.Token.scan?`: the tokens of a text, if it is lexically well formed.
-/

namespace TriggerCompose.Json

/-- A token of a JSON text. -/
inductive Token where
  | openBrace
  | closeBrace
  | openBracket
  | closeBracket
  | comma
  | colon
  | null
  | boolean (value : Bool)
  | number (value? : Option Json.Number)
  | string (value? : Option String)

/-- A piece of the inside of a string: a character that stands for itself or for a
    short escape, or a sixteen-bit unit given by its number. -/
inductive Piece where
  | char (c : Char)
  | unit (code : Nat)

namespace Token

/-- The four blank characters of the format. -/
def isSpace (c : Char) : Bool :=
  c == ' ' || c == '\t' || c == '\n' || c == '\r'

/-- The number of a unit given by four hexadecimal digits. -/
def unit? (a b c d : Char) : Option Nat := do
  let a ← Number.hexDigit? a
  let b ← Number.hexDigit? b
  let c ← Number.hexDigit? c
  let d ← Number.hexDigit? d
  return ((a * 16 + b) * 16 + c) * 16 + d

/-- The character that a short escape stands for. -/
def shortEscape? (c : Char) : Option Char :=
  if c == '\x22' || c == '\\' || c == '/' then some c
  else if c == 'b' then some '\x08'
  else if c == 'f' then some '\x0c'
  else if c == 'n' then some '\n'
  else if c == 'r' then some '\r'
  else if c == 't' then some '\t'
  else none

/-- The pieces of a string up to its closing quote, and the text after the quote.
    A raw control, an unknown escape or a missing quote is an error. -/
def spanPieces? : List Char → Option (List Piece × List Char)
  | [] => none
  | '\\' :: 'u' :: a :: b :: c :: d :: rest => do
    let code ← unit? a b c d
    let (pieces, rest) ← spanPieces? rest
    return (.unit code :: pieces, rest)
  | '\\' :: escape :: rest => do
    let c ← shortEscape? escape
    let (pieces, rest) ← spanPieces? rest
    return (.char c :: pieces, rest)
  | c :: rest =>
    if c == '\x22' then some ([], rest)
    else if c == '\\' || c < ' ' then none
    else do
      let (pieces, rest) ← spanPieces? rest
      return (.char c :: pieces, rest)

/-- The characters of a list of pieces. A high surrogate joins the low one right
    after it; a surrogate without its other half has no character. -/
def characters? : List Piece → Option (List Char)
  | [] => some []
  | .char c :: rest => (characters? rest).map (c :: ·)
  | [.unit code] => if 0xd800 ≤ code && code < 0xe000 then none else some [Char.ofNat code]
  | .unit high :: .unit low :: rest =>
    if 0xd800 ≤ high && high < 0xdc00 then
      if 0xdc00 ≤ low && low < 0xe000 then
        let code := 0x10000 + (high - 0xd800) * 0x400 + (low - 0xdc00)
        (characters? rest).map (Char.ofNat code :: ·)
      else none
    else if 0xdc00 ≤ high && high < 0xe000 then none
    else (characters? (.unit low :: rest)).map (Char.ofNat high :: ·)
  | .unit code :: .char c :: rest =>
    if 0xd800 ≤ code && code < 0xe000 then none
    else (characters? rest).map (fun cs => Char.ofNat code :: c :: cs)

/-- The value of a number literal with its sign. A whole number is an integer if
    it is in range; a negative zero and all else are doubles, and there is no
    value beyond the largest of them.

    A literal is taken to be read as the double nearest to it. JSON readers promise that
    only where they are set up for exact round trips (`float_roundtrip`). Others scale
    the digits in floating point, which is faster and gives a neighbour of that double
    for some literals, such as `31.245270191439438`. -/
def numberValue? (negative : Bool) (l : Decimal.Literal) : Option Json.Number :=
  let real? := l.value.magnitude?.map fun magnitude => Json.Number.real { negative, magnitude }
  match l.natural? with
  | some n =>
    if negative && n == 0 then real?
    else (Json.Number.ofInt? (if negative then -(n : Int) else n)).or real?
  | none => real?

/-- A literal in the strict form of the format: at least one whole digit, no
    superfluous leading zero, and a digit after a point. -/
def isStrict (l : Decimal.Literal) : Bool :=
  (match l.whole with
  | [] => false
  | [_] => true
  | first :: _ => first != '0') && l.fraction? != some []

/-- A number at the start of a text, and the text after it. -/
def spanNumber? (text : List Char) : Option (Token × List Char) := do
  let (negative, text) := match text with
    | '-' :: rest => (true, rest)
    | text => (false, text)
  let (literal, rest) ← Decimal.spanLiteral? text
  if isStrict literal then return (.number (numberValue? negative literal), rest) else none

/-- The token that starts a text whose first character is not blank, and the text
    after it. -/
def next? : List Char → Option (Token × List Char)
  | '\x7b' :: rest => some (.openBrace, rest)
  | '\x7d' :: rest => some (.closeBrace, rest)
  | '[' :: rest => some (.openBracket, rest)
  | ']' :: rest => some (.closeBracket, rest)
  | ',' :: rest => some (.comma, rest)
  | ':' :: rest => some (.colon, rest)
  | '\x22' :: rest =>
    (spanPieces? rest).map fun (pieces, rest) =>
      (.string ((characters? pieces).map String.ofList), rest)
  | 'n' :: 'u' :: 'l' :: 'l' :: rest => some (.null, rest)
  | 't' :: 'r' :: 'u' :: 'e' :: rest => some (.boolean true, rest)
  | 'f' :: 'a' :: 'l' :: 's' :: 'e' :: rest => some (.boolean false, rest)
  | text => spanNumber? text

/-- The tokens of a text, at most `fuel` of them. -/
def scanUpTo? : Nat → List Char → Option (List Token)
  | fuel, text =>
    match text.dropWhile isSpace with
    | [] => some []
    | c :: rest =>
      match fuel with
      | 0 => none
      | fuel + 1 => do
        let (token, rest) ← next? (c :: rest)
        let tokens ← scanUpTo? fuel rest
        return token :: tokens

/-- The tokens of a text. Each takes at least one character, so the length of the
    text bounds their number. -/
def scan? (text : List Char) : Option (List Token) :=
  scanUpTo? text.length text

end Token

end TriggerCompose.Json
