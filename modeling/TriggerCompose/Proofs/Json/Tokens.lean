import TriggerCompose.Json.Printer
import TriggerCompose.Proofs.Json.Number

/-!
# Tokens of JSON texts read back

A string is written with escapes that are read as the characters they stand for, and a
text is scanned token by token with blanks anywhere between them.

## Main definitions

* `Json.Token.pieceOf`: what a written character is read as.
* `Json.Token.Scans`: a text that falls into tokens.

## Main statements

* `Json.Token.characters?_map_pieceOf`: the characters of a written string.
* `Json.Token.next?_quotedChars`, `Json.Token.next?_written`: strings and numbers.
* `Json.Token.scan?_of_scans`: scanning finds the tokens.
-/

namespace TriggerCompose.Json.Token

open Decimal (carriesOn)

/-! ### Strings -/

/-- The piece that an escaped character is read as: the controls without a short escape
    are given by their numbers. -/
def pieceOf (c : Char) : Piece :=
  if c < ' ' ∧ c ∉ ['\x08', '\x0c', '\n', '\r', '\t'] then .unit c.toNat else .char c

theorem hexDigit?_digitChar : ∀ n < 16, Number.hexDigit? (Nat.digitChar n) = some n := by
  decide

theorem unit?_of_lt {n : Nat} (hn : n < 32) :
    unit? '0' '0' (Nat.digitChar (n / 16)) (Nat.digitChar (n % 16)) = some n := by
  have hzero : Number.hexDigit? '0' = some 0 := by decide
  have hhigh := hexDigit?_digitChar (n / 16) (by omega)
  have hlow := hexDigit?_digitChar (n % 16) (by omega)
  simp only [unit?, hzero, hhigh, hlow, Option.bind_eq_bind, Option.bind_some]
  exact congrArg some (by omega)

variable {text rest : List Char} {pieces : List Piece}

theorem spanPieces?_short {escape c : Char} (hu : escape ≠ 'u')
    (hescape : shortEscape? escape = some c) (h : spanPieces? text = some (pieces, rest)) :
    spanPieces? ('\\' :: escape :: text) = some (.char c :: pieces, rest) := by
  rw [spanPieces?]
  · simp [hescape, h]
  · simp [hu]

theorem spanPieces?_unit {a b c d : Char} {code : Nat} (hcode : unit? a b c d = some code)
    (h : spanPieces? text = some (pieces, rest)) :
    spanPieces? ('\\' :: 'u' :: a :: b :: c :: d :: text) = some (.unit code :: pieces, rest) := by
  rw [spanPieces?]
  simp [hcode, h]

theorem spanPieces?_plain {c : Char} (hquote : c ≠ '\x22') (hbackslash : c ≠ '\\')
    (hcontrol : ¬ c < ' ') (h : spanPieces? text = some (pieces, rest)) :
    spanPieces? (c :: text) = some (.char c :: pieces, rest) := by
  rw [spanPieces?]
  · simp [hquote, hbackslash, hcontrol, h]
  · simp [hbackslash]
  · simp [hbackslash]

/-- An escaped character is read as its piece. -/
theorem spanPieces?_escaped (c : Char) (h : spanPieces? text = some (pieces, rest)) :
    spanPieces? (escaped c ++ text) = some (pieceOf c :: pieces, rest) := by
  by_cases hshort : c ∈ ['\x22', '\\', '\x08', '\x0c', '\n', '\r', '\t']
  · simp only [List.mem_cons, List.not_mem_nil, or_false] at hshort
    rcases hshort with rfl | rfl | rfl | rfl | rfl | rfl | rfl
    all_goals exact spanPieces?_short (by decide) rfl h
  · -- What is left is a control given by its number, or a character that stands for itself.
    simp only [List.mem_cons, List.not_mem_nil, or_false, not_or] at hshort
    obtain ⟨hquote, hbackslash, hb, hf, hn, hr, ht⟩ := hshort
    by_cases hcontrol : c < ' '
    · have hescaped : escaped c =
          ['\\', 'u', '0', '0', Nat.digitChar (c.toNat / 16), Nat.digitChar (c.toNat % 16)] := by
        simp [escaped, hquote, hbackslash, hb, hf, hn, hr, ht, hcontrol]
      have hpiece : pieceOf c = .unit c.toNat := by
        simp [pieceOf, hb, hf, hn, hr, ht, hcontrol]
      rw [hescaped, hpiece]
      exact spanPieces?_unit (unit?_of_lt (Char.lt_def.mp hcontrol)) h
    · have hescaped : escaped c = [c] := by
        simp [escaped, hquote, hbackslash, hb, hf, hn, hr, ht, hcontrol]
      have hpiece : pieceOf c = .char c := by
        simp [pieceOf, hcontrol]
      rw [hescaped, hpiece]
      exact spanPieces?_plain hquote hbackslash hcontrol h

theorem spanPieces?_flatMap_escaped (cs rest : List Char) :
    spanPieces? (cs.flatMap escaped ++ '\x22' :: rest) = some (cs.map pieceOf, rest) := by
  induction cs with
  | nil => rfl
  | cons c cs ih =>
    rw [List.flatMap_cons, List.append_assoc]
    exact spanPieces?_escaped c ih

/-- A unit below the surrogates is a character of its own, whatever follows. -/
theorem characters?_unit_cons {code : Nat} (hcode : code < 0xd800) (pieces : List Piece) :
    characters? (.unit code :: pieces) = (characters? pieces).map (Char.ofNat code :: ·) := by
  have hhigh : ¬ 0xd800 ≤ code := by omega
  have hlow : ¬ 0xdc00 ≤ code := by omega
  match pieces with
  | [] => simp [characters?, hhigh]
  | .char c :: pieces => simp [characters?, hhigh, Function.comp_def]
  | .unit low :: pieces => simp [characters?, hhigh, hlow]

/-- The pieces of a written string give its characters. -/
theorem characters?_map_pieceOf (cs : List Char) : characters? (cs.map pieceOf) = some cs := by
  induction cs with
  | nil => rfl
  | cons c cs ih =>
    rw [List.map_cons, pieceOf]
    by_cases hunit : c < ' ' ∧ c ∉ ['\x08', '\x0c', '\n', '\r', '\t']
    · have hcode : c.toNat < 32 := Char.lt_def.mp hunit.1
      rw [if_pos hunit, characters?_unit_cons (by omega), ih, Option.map_some, Char.ofNat_toNat]
    · rw [if_neg hunit, characters?, ih, Option.map_some]

/-! ### Single tokens -/

theorem next?_quotedChars (s : String) (rest : List Char) :
    next? (quotedChars s ++ rest) = some (.string (some s), rest) := by
  have hspan := spanPieces?_flatMap_escaped s.toList rest
  have htext : quotedChars s ++ rest = '\x22' :: (s.toList.flatMap escaped ++ '\x22' :: rest) := by
    simp [quotedChars]
  have hquote : ∀ text, next? ('\x22' :: text) = (spanPieces? text).map fun p =>
      (.string ((characters? p.1).map String.ofList), p.2) := fun _ => rfl
  rw [htext, hquote, hspan, Option.map_some]
  simp only [characters?_map_pieceOf, Option.map_some, String.ofList_toList]

theorem next?_of_digit {c : Char} (hc : c.isDigit ∨ c = '-') (text : List Char) :
    next? (c :: text) = spanNumber? (c :: text) := by
  unfold next?
  split <;> simp_all

theorem next?_written (n : Json.Number) {rest : List Char}
    (hrest : rest.head?.any carriesOn = false) :
    next? (n.written ++ rest) = some (.number (some n), rest) := by
  have hspan := spanNumber?_written n hrest
  obtain ⟨c, later, hcons, hc⟩ := exists_cons_written n
  rw [hcons, List.cons_append] at hspan ⊢
  rw [next?_of_digit hc, hspan]

/-! ### Scanning -/

/-- A text that falls into tokens, with blanks anywhere between them. -/
inductive Scans : List Char → List Token → Prop where
  | nil : Scans [] []
  | blank {c : Char} {text : List Char} {tokens : List Token} (hc : isSpace c)
      (h : Scans text tokens) : Scans (c :: text) tokens
  | token {c : Char} {lexeme rest : List Char} {token : Token} {tokens : List Token}
      (hc : isSpace c = false) (hnext : next? (c :: (lexeme ++ rest)) = some (token, rest))
      (h : Scans rest tokens) : Scans (c :: (lexeme ++ rest)) (token :: tokens)

theorem scanUpTo?_of_scans {tokens : List Token} (h : Scans text tokens) {fuel : Nat}
    (hfuel : text.length ≤ fuel) : scanUpTo? fuel text = some tokens := by
  induction h generalizing fuel with
  | nil =>
    rw [scanUpTo?]
    rfl
  | @blank c text tokens hc _ ih =>
    rw [List.length_cons] at hfuel
    have hblank : scanUpTo? fuel text = some tokens := ih (by omega)
    rw [scanUpTo?] at hblank ⊢
    rwa [List.dropWhile_cons_of_pos hc]
  | @token c lexeme rest token tokens hc hnext _ ih =>
    -- A token takes at least one character, so the fuel lasts for the rest.
    simp only [List.length_cons, List.length_append] at hfuel
    obtain ⟨fuel, rfl⟩ : ∃ k, fuel = k + 1 := ⟨fuel - 1, by omega⟩
    have hlater : scanUpTo? fuel rest = some tokens := ih (by omega)
    rw [scanUpTo?, List.dropWhile_cons_of_neg (by simp [hc])]
    simp [hnext, hlater]

theorem scan?_of_scans {tokens : List Token} (h : Scans text tokens) : scan? text = some tokens :=
  scanUpTo?_of_scans h (Nat.le_refl _)

end TriggerCompose.Json.Token
