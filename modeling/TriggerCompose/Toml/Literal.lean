import TriggerCompose.Number.Word

/-!
# TOML strings

The four kinds of strings: with or without escapes, on one line or on several. The
text is expected to have line feeds as its only line ends and no other control
characters but tabs.

## Main definitions

* `Toml.normalized?`: a text with single line feeds, if its characters are allowed.
* `Toml.spanString?`: a string of any kind at the start of a text.
* `Toml.spanLine?`: a string of one line at the start of a text.
-/

namespace TriggerCompose.Toml

/-- A character that a text may hold. -/
def isAllowed (c : Char) : Bool :=
  c == '\t' || c == '\n' || (' ' ≤ c && c != '\x7f')

/-- A text without the carriage returns that stand before line feeds. -/
def unifyLineEnds : List Char → List Char
  | '\r' :: '\n' :: rest => '\n' :: unifyLineEnds rest
  | c :: rest => c :: unifyLineEnds rest
  | [] => []

/-- A text without a byte order mark in front, and with single line feeds, if
    nothing else in it is a forbidden control. -/
def normalized? (text : List Char) : Option (List Char) :=
  let text := unifyLineEnds (match text with
    | '\ufeff' :: rest => rest
    | text => text)
  if text.all isAllowed then some text else none

/-- A space or a tab. -/
def isSpace (c : Char) : Bool :=
  c == ' ' || c == '\t'

/-- The character with the code that hexadecimal digits give; surrogates and codes
    beyond the last have none. -/
def charOfHex? (digits : List Char) : Option Char := do
  let values ← digits.mapM Number.hexDigit?
  let code := values.foldl (fun code value => 16 * code + value) 0
  if code.isValidChar then return Char.ofNat code else none

/-- The character that an escape stands for, given the text after its backslash, and
    the text after the escape. -/
def escape? : List Char → Option (Char × List Char)
  | 'b' :: rest => some ('\x08', rest)
  | 't' :: rest => some ('\t', rest)
  | 'n' :: rest => some ('\n', rest)
  | 'f' :: rest => some ('\x0c', rest)
  | 'r' :: rest => some ('\r', rest)
  | 'e' :: rest => some ('\x1b', rest)
  | '\x22' :: rest => some ('\x22', rest)
  | '\\' :: rest => some ('\\', rest)
  | 'x' :: rest => coded? 2 rest
  | 'u' :: rest => coded? 4 rest
  | 'U' :: rest => coded? 8 rest
  | _ => none
where
  /-- The character given by a number of hexadecimal digits. -/
  coded? (count : Nat) (text : List Char) : Option (Char × List Char) :=
    if text.length < count then none
    else (charOfHex? (text.take count)).map fun c => (c, text.drop count)

/-- One character of a string that stands for itself. Only a string of several lines
    holds line feeds. -/
def plainPiece? (multiline : Bool) : List Char → Option (List Char × List Char)
  | [] => none
  | c :: rest => if c == '\n' && ! multiline then none else some ([c], rest)

/-- One character or escape of a string. In a string of several lines, a backslash at
    the end of a line stands for nothing, and neither does the blank text after it. -/
def escapedPiece? (multiline : Bool) : List Char → Option (List Char × List Char)
  | '\\' :: rest =>
    match rest.dropWhile isSpace with
    | '\n' :: below =>
      if multiline then some ([], below.dropWhile fun c => isSpace c || c == '\n') else none
    | _ => (escape? rest).map fun (c, rest) => ([c], rest)
  | text => plainPiece? multiline text

/-- The end of a string at the start of a text, if it is there: the quotes that still
    belong to the string, and the text after it. Three quotes end a string of several
    lines, and up to two more before them belong to it. -/
def close? (multiline : Bool) (mark : Char) (text : List Char) :
    Option (List Char × List Char) :=
  let quotes := ((text.takeWhile (· == mark)).take 5).length
  if multiline then
    if quotes < 3 then none else some (List.replicate (quotes - 3) mark, text.drop quotes)
  else if quotes = 0 then none else some ([], text.drop 1)

/-- The pieces of a string up to its end, at most `fuel` of them, and the text after
    the string. -/
def spanPieces? (multiline : Bool) (mark : Char)
    (piece? : List Char → Option (List Char × List Char)) :
    Nat → List Char → Option (List Char × List Char)
  | 0, _ => none
  | fuel + 1, text =>
    match close? multiline mark text with
    | some ended => some ended
    | none => do
      let (first, text) ← piece? text
      let (rest, text) ← spanPieces? multiline mark piece? fuel text
      return (first ++ rest, text)

/-- The quote of strings with escapes. -/
def doubleQuote : Char := '\x22'

/-- The quote of strings without escapes. -/
def singleQuote : Char := '\x27'

/-- The contents of a string after its opening quotes, and the text after it. -/
def spanContents? (multiline : Bool) (mark : Char) (text : List Char) :
    Option (String × List Char) :=
  let piece? := if mark == doubleQuote then escapedPiece? multiline else plainPiece? multiline
  (spanPieces? multiline mark piece? (text.length + 1) text).map fun (chars, rest) =>
    (String.ofList chars, rest)

/-- A string of one line at the start of a text. -/
def spanLine? : List Char → Option (String × List Char)
  | mark :: rest =>
    if mark == doubleQuote || mark == singleQuote then spanContents? false mark rest else none
  | [] => none

/-- A string at the start of a text. A line feed right after the opening of a string of
    several lines does not belong to it. -/
def spanString? : List Char → Option (String × List Char)
  | a :: b :: c :: rest =>
    if (a == doubleQuote || a == singleQuote) && b == a && c == a then
      spanContents? true a (match rest with
        | '\n' :: rest => rest
        | rest => rest)
    else spanLine? (a :: b :: c :: rest)
  | text => spanLine? text

end TriggerCompose.Toml
