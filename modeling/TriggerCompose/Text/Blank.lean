/-!
# Blank characters

Which characters separate words and pad a text, and the two operations that rest
on them: cutting a text into its words and trimming it.

## Main definitions

* `Text.isBlank`: the characters of the Unicode property `White_Space`.
* `Text.words`: the maximal blank-free pieces of a text, in order.
* `Text.trim`: a text without the blank characters at its two ends.
-/

namespace TriggerCompose.Text

/-- A character with the Unicode property `White_Space`. -/
def isBlank (c : Char) : Bool :=
  ('\t' ≤ c && c ≤ '\r') || c == ' ' || c == '\u0085' || c == '\u00a0' || c == '\u1680' ||
    ('\u2000' ≤ c && c ≤ '\u200a') || c == '\u2028' || c == '\u2029' || c == '\u202f' ||
    c == '\u205f' || c == '\u3000'

/-- The words of a text: what is left between blank characters, without the
    empty pieces. -/
def words (text : List Char) : List (List Char) :=
  (text.splitOnP isBlank).filter (! ·.isEmpty)

/-- A text without its leading blank characters. -/
def trimStart (text : List Char) : List Char :=
  text.dropWhile isBlank

/-- A text without its trailing blank characters. -/
def trimEnd (text : List Char) : List Char :=
  (text.reverse.dropWhile isBlank).reverse

/-- A text without its leading and trailing blank characters. -/
def trim (text : List Char) : List Char :=
  trimEnd (trimStart text)

/-- A string without its leading and trailing blank characters. -/
def trimmed (s : String) : String :=
  String.ofList (trim s.toList)

/-- A string that holds blank characters only; the empty string is one. -/
def isBlankText (s : String) : Bool :=
  s.toList.all isBlank

/-- A string that holds at least one blank character. -/
def hasBlank (s : String) : Bool :=
  s.toList.any isBlank

end TriggerCompose.Text
