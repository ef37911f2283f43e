import TriggerCompose.Json.Document
import TriggerCompose.Proofs.Json.Tokens

/-!
# Printed JSON values read back

The indented text of a value falls into the tokens of the value, and the stack machine
turns these back into the document that the value is. So printing a value and reading the
text loses nothing, whatever strings and numbers it holds.

## Main definitions

* `Json.tokensOf`: the tokens of a value.

## Main statements

* `Json.scans_prettyChars`: an indented text falls into the tokens of its value.
* `Json.Document.run?_tokensOf`: the machine reads a value off its tokens.
* `Json.Document.ofText?_pretty`: a printed value reads back.
-/

namespace TriggerCompose.Json

open Decimal (carriesOn)
open Token (Scans)

mutual

/-- The tokens of a value. -/
def tokensOf : Json → List Token
  | null => [.null]
  | boolean b => [.boolean b]
  | number n => [.number (some n)]
  | string s => [.string (some s)]
  | array [] => [.openBracket, .closeBracket]
  | array (item :: items) => .openBracket :: (tokensOf item ++ laterItems items ++ [.closeBracket])
  | object [] => [.openBrace, .closeBrace]
  | object ((key, value) :: members) =>
    .openBrace :: .string (some key) :: .colon ::
      (tokensOf value ++ laterMembers members ++ [.closeBrace])

/-- The tokens of the items after the first. -/
def laterItems : List Json → List Token
  | [] => []
  | item :: items => .comma :: (tokensOf item ++ laterItems items)

/-- The tokens of the members after the first. -/
def laterMembers : List (String × Json) → List Token
  | [] => []
  | (key, value) :: members =>
    .comma :: .string (some key) :: .colon :: (tokensOf value ++ laterMembers members)

end

/-! ### Texts -/

section

variable {rest : List Char} {ts : List Token}

theorem scans_single {c : Char} {token : Token} (hc : Token.isSpace c = false)
    (hnext : Token.next? (c :: rest) = some (token, rest)) (h : Scans rest ts) :
    Scans (c :: rest) (token :: ts) :=
  @Scans.token c [] rest token ts hc hnext h

theorem scans_newLine (level : Nat) (h : Scans rest ts) : Scans (newLine level ++ rest) ts := by
  refine .blank rfl ?_
  generalize 2 * level = width
  induction width with
  | zero => exact h
  | succ width ih => exact .blank rfl ih

theorem scans_quotedChars (s : String) (h : Scans rest ts) :
    Scans (quotedChars s ++ rest) (.string (some s) :: ts) := by
  have hnext := Token.next?_quotedChars s rest
  have htext : quotedChars s = '\x22' :: (s.toList.flatMap escaped ++ ['\x22']) := by
    simp [quotedChars]
  rw [htext, List.cons_append] at hnext ⊢
  exact .token rfl hnext h

theorem isSpace_of_isDigit {c : Char} (hc : c.isDigit) : Token.isSpace c = false := by
  cases hspace : Token.isSpace c with
  | false => rfl
  | true =>
    simp only [Token.isSpace, Bool.or_eq_true, beq_iff_eq] at hspace
    rcases hspace with ((rfl | rfl) | rfl) | rfl
    all_goals cases hc

theorem scans_written (n : Json.Number) (hrest : rest.head?.any carriesOn = false)
    (h : Scans rest ts) : Scans (n.written ++ rest) (.number (some n) :: ts) := by
  have hnext := Token.next?_written n hrest
  obtain ⟨c, later, hcons, hc⟩ := exists_cons_written n
  rw [hcons, List.cons_append] at hnext ⊢
  refine .token ?_ hnext h
  rcases hc with hdigit | rfl
  · exact isSpace_of_isDigit hdigit
  · rfl

/-- A comma or a new line follows a value in a container, and neither carries a number
    on. -/
theorem head?_prettyItems (level : Nat) (items : List Json)
    (hrest : rest.head?.any carriesOn = false) :
    (prettyItems level items ++ rest).head?.any carriesOn = false := by
  cases items with
  | nil => exact hrest
  | cons item items =>
    rw [prettyItems]
    rfl

theorem head?_prettyMembers (level : Nat) (members : List (String × Json))
    (hrest : rest.head?.any carriesOn = false) :
    (prettyMembers level members ++ rest).head?.any carriesOn = false := by
  cases members with
  | nil => exact hrest
  | cons member members =>
    rw [prettyMembers]
    rfl

end

mutual

/-- An indented text falls into the tokens of its value. -/
theorem scans_prettyChars (level : Nat) (v : Json) {rest : List Char} {ts : List Token}
    (hrest : rest.head?.any carriesOn = false) (h : Scans rest ts) :
    Scans (prettyChars level v ++ rest) (tokensOf v ++ ts) := by
  match v with
  | null => exact @Scans.token 'n' ['u', 'l', 'l'] rest .null ts rfl rfl h
  | boolean true => exact @Scans.token 't' ['r', 'u', 'e'] rest (.boolean true) ts rfl rfl h
  | boolean false =>
    exact @Scans.token 'f' ['a', 'l', 's', 'e'] rest (.boolean false) ts rfl rfl h
  | number n => exact scans_written n hrest h
  | string s => exact scans_quotedChars s h
  | array [] => exact scans_single rfl rfl (scans_single rfl rfl h)
  | array (item :: items) =>
    -- The text is put together from its end, where the container is closed.
    have hclose := scans_newLine level (scans_single (c := ']') rfl rfl h)
    have hitems := scans_prettyItems (level + 1) items rfl hclose
    have hitem := scans_prettyChars (level + 1) item
      (head?_prettyItems (level + 1) items rfl) hitems
    have hopen := scans_single (c := '[') rfl rfl (scans_newLine (level + 1) hitem)
    simpa [prettyChars, tokensOf] using hopen
  | object [] => exact scans_single rfl rfl (scans_single rfl rfl h)
  | object ((key, value) :: members) =>
    have hclose := scans_newLine level (scans_single (c := '\x7d') rfl rfl h)
    have hmembers := scans_prettyMembers (level + 1) members rfl hclose
    have hvalue := scans_prettyChars (level + 1) value
      (head?_prettyMembers (level + 1) members rfl) hmembers
    have hcolon := scans_single (c := ':') rfl rfl (Scans.blank (c := ' ') rfl hvalue)
    have hopen := scans_single (c := '\x7b') rfl rfl
      (scans_newLine (level + 1) (scans_quotedChars key hcolon))
    simpa [prettyChars, tokensOf] using hopen

theorem scans_prettyItems (level : Nat) (items : List Json) {rest : List Char} {ts : List Token}
    (hrest : rest.head?.any carriesOn = false) (h : Scans rest ts) :
    Scans (prettyItems level items ++ rest) (laterItems items ++ ts) := by
  match items with
  | [] => exact h
  | item :: items =>
    have hitems := scans_prettyItems level items hrest h
    have hitem := scans_prettyChars level item (head?_prettyItems level items hrest) hitems
    have hcomma := scans_single (c := ',') rfl rfl (scans_newLine level hitem)
    simpa [prettyItems, laterItems] using hcomma

theorem scans_prettyMembers (level : Nat) (members : List (String × Json)) {rest : List Char}
    {ts : List Token} (hrest : rest.head?.any carriesOn = false) (h : Scans rest ts) :
    Scans (prettyMembers level members ++ rest) (laterMembers members ++ ts) := by
  match members with
  | [] => exact h
  | (key, value) :: members =>
    have hmembers := scans_prettyMembers level members hrest h
    have hvalue := scans_prettyChars level value (head?_prettyMembers level members hrest) hmembers
    have hcolon := scans_single (c := ':') rfl rfl (Scans.blank (c := ' ') rfl hvalue)
    have hcomma := scans_single (c := ',') rfl rfl
      (scans_newLine level (scans_quotedChars key hcolon))
    simpa [prettyMembers, laterMembers] using hcomma

end

/-! ### Documents -/

namespace Document

/-- The first item of an array is read like any other value. -/
theorem run?_firstItem (v : Json) (ts : List Token) (stack : List Frame) :
    run? (tokensOf v ++ ts) .firstItem stack = run? (tokensOf v ++ ts) .value (.items [] :: stack) := by
  match v with
  | .null | .boolean _ | .number _ | .string _ | .array [] | .array (_ :: _) | .object []
  | .object (_ :: _) => rfl

mutual

/-- The machine reads a value off its tokens, whatever is open around it. -/
theorem run?_tokensOf (v : Json) (ts : List Token) (stack : List Frame) :
    run? (tokensOf v ++ ts) .value stack = run? ts (.afterValue (ofValue v)) stack := by
  match v with
  | .null | .boolean _ | .number _ | .string _ | .array [] | .object [] => rfl
  | .array (item :: items) =>
    -- The array that was opened lies on the stack while its items are read.
    have hitem := run?_tokensOf item (laterItems items ++ .closeBracket :: ts) (.items [] :: stack)
    have hitems := run?_laterItems items (ofValue item) [] ts stack
    have hfirst := run?_firstItem item (laterItems items ++ .closeBracket :: ts) stack
    rw [hitem, hitems] at hfirst
    simpa [tokensOf, run?, step, stepValue, ofValue, ofValues] using hfirst
  | .object ((key, value) :: members) =>
    have hvalue := run?_tokensOf value (laterMembers members ++ .closeBrace :: ts)
      (.member [] (some key) :: stack)
    have hmembers := run?_laterMembers members (ofValue value) [] (some key) ts stack
    rw [hmembers] at hvalue
    simpa [tokensOf, run?, step, stepValue, ofValue, ofMembers] using hvalue

theorem run?_laterItems (items : List Json) (value : Document) (done : List Document)
    (ts : List Token) (stack : List Frame) :
    run? (laterItems items ++ .closeBracket :: ts) (.afterValue value) (.items done :: stack) =
      run? ts (.afterValue (array (done.reverse ++ value :: ofValues items))) stack := by
  match items with
  | [] => simp [laterItems, run?, step, stepAfter, ofValues]
  | item :: items =>
    have hitem := run?_tokensOf item (laterItems items ++ .closeBracket :: ts)
      (.items (value :: done) :: stack)
    have hitems := run?_laterItems items (ofValue item) (value :: done) ts stack
    rw [hitems] at hitem
    simpa [laterItems, run?, step, stepAfter, ofValues] using hitem

theorem run?_laterMembers (members : List (String × Json)) (value : Document)
    (done : List (Option String × Document)) (key? : Option String) (ts : List Token)
    (stack : List Frame) :
    run? (laterMembers members ++ .closeBrace :: ts) (.afterValue value)
        (.member done key? :: stack) =
      run? ts (.afterValue (object (done.reverse ++ (key?, value) :: ofMembers members))) stack := by
  match members with
  | [] => simp [laterMembers, run?, step, stepAfter, ofMembers]
  | (key, next) :: members =>
    have hvalue := run?_tokensOf next (laterMembers members ++ .closeBrace :: ts)
      (.member ((key?, value) :: done) (some key) :: stack)
    have hmembers := run?_laterMembers members (ofValue next) ((key?, value) :: done) (some key)
      ts stack
    rw [hmembers] at hvalue
    simpa [laterMembers, run?, step, stepAfter, ofMembers] using hvalue

end

/-- A printed value reads back as itself. -/
theorem ofText?_pretty (v : Json) : ofText? v.pretty = some (ofValue v) := by
  have hscan := Token.scan?_of_scans (scans_prettyChars 0 v rfl Scans.nil)
  have hrun := run?_tokensOf v [] []
  rw [List.append_nil] at hscan
  rw [List.append_nil] at hscan hrun
  rw [ofText?, pretty, String.toList_ofList, hscan]
  exact hrun

end Document

end TriggerCompose.Json
