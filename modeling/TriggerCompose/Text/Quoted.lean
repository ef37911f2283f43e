import TriggerCompose.Text.Unseen

/-!
# Quoted text in messages

A message shows a piece of user text between double quotes, with escapes that
make every character visible.

## Main definitions

* `Text.escaped`: how one character is written inside the quotes.
* `Text.quoted`: a whole string in quotes.
-/

namespace TriggerCompose.Text

/-- One character inside quotes. The quote, the backslash and the common controls
    have short escapes, an unseen character is given by its code point in
    lower-case hexadecimal, and every other character stands for itself. -/
def escaped (c : Char) : List Char :=
  if c == '\t' then ['\\', 't']
  else if c == '\r' then ['\\', 'r']
  else if c == '\n' then ['\\', 'n']
  else if c == '\x00' then ['\\', '0']
  else if c == '\x22' then ['\\', '\x22']
  else if c == '\\' then ['\\', '\\']
  else if isUnseen c then ['\\', 'u', '\x7b'] ++ Nat.toDigits 16 c.toNat ++ ['\x7d']
  else [c]

/-- A string in double quotes, as messages show it. -/
def quoted (s : String) : String :=
  String.ofList ('\x22' :: s.toList.flatMap escaped ++ ['\x22'])

end TriggerCompose.Text
