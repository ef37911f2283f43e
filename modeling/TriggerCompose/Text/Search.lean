/-!
# Searching in texts

Plain occurrence of one text in another, and the case folding under which ASCII
words are searched.

## Main definitions

* `Text.occursIn`: a pattern occurs somewhere in a text.
* `Text.foldLetter`: case folding of the characters that fold to ASCII letters.
* `Text.lowerAscii`: a string with its ASCII capitals lowered.
-/

namespace TriggerCompose.Text

/-- The pattern occurs somewhere in the text. -/
def occursIn (pattern : List Char) : List Char → Bool
  | [] => pattern.isEmpty
  | c :: rest => pattern.isPrefixOf (c :: rest) || occursIn pattern rest

/-- The ASCII letter to which a character folds, and any other character itself.
    Besides the ASCII capitals, the long s and the kelvin sign fold to ASCII. -/
def foldLetter (c : Char) : Char :=
  if c == '\u017f' then 's'
  else if c == '\u212a' then 'k'
  else c.toLower

/-- A string with its ASCII capitals lowered. -/
def lowerAscii (s : String) : String :=
  String.ofList (s.toList.map Char.toLower)

end TriggerCompose.Text
