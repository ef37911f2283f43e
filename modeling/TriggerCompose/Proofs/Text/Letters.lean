import TriggerCompose.Proofs.Text.Spans
import Mathlib.Data.List.Forall2

/-!
# Words in any case

A text is searched for a lower-case word after its own letters have been folded to lower
case. What is found that way are runs of characters that agree with the word letter by letter,
each in one of the forms that fold to its letter.

## Main definitions

* `Text.IsCaseOf`: the two ASCII forms of a letter.
* `Text.FoldsTo`: the forms of a letter under the simple case folding of Unicode.
* `Text.Mentions`: a word stands somewhere in a text, in given forms of its letters.

## Main statements

* `Text.isAlphanum_iff`: ASCII letters and digits by their ranges.
* `Text.lowerAscii_eq_iff`: a text that is a word in any case.
* `Text.occursIn_lowerAscii_iff`, `Text.occursIn_map_foldLetter_iff`: a text that mentions one.
-/

namespace TriggerCompose.Text

/-! ### Letters -/

/-- A character is an ASCII letter in lower case or in upper case. -/
def IsCaseOf (c letter : Char) : Prop :=
  c = letter ∨ c = letter.toUpper

/-- A character is a form of an ASCII letter under the simple case folding of Unicode, which
    also takes the long s for an `s` and the kelvin sign for a `k`. -/
def FoldsTo (c letter : Char) : Prop :=
  IsCaseOf c letter ∨ (letter = 's' ∧ c = '\u017f') ∨ (letter = 'k' ∧ c = '\u212a')

theorem isAlphanum_iff {c : Char} :
    c.isAlphanum ↔ ('A' ≤ c ∧ c ≤ 'Z') ∨ ('a' ≤ c ∧ c ≤ 'z') ∨ ('0' ≤ c ∧ c ≤ '9') := by
  have hranges : c.isAlphanum = ((decide ('A' ≤ c ∧ c ≤ 'Z') || ('a' ≤ c && c ≤ 'z')) ||
      ('0' ≤ c && c ≤ '9')) := rfl
  simp only [hranges, Bool.or_eq_true, Bool.and_eq_true, decide_eq_true_eq, or_assoc]

theorem isLower_iff {c : Char} : c.isLower ↔ 97 ≤ c.toNat ∧ c.toNat ≤ 122 := by
  change (decide (97 ≤ c.val) && decide (c.val ≤ 122)) = true ↔ _
  simp [UInt32.le_iff_toNat_le]

theorem toNat_toLower (c : Char) :
    c.toLower.toNat = if 65 ≤ c.toNat ∧ c.toNat ≤ 90 then c.toNat + 32 else c.toNat := by
  unfold Char.toLower
  split
  next h =>
    have hcodes : 65 ≤ c.toNat ∧ c.toNat ≤ 90 := by simpa [UInt32.le_iff_toNat_le] using h
    rw [if_pos hcodes]
    show (c.val + _).toNat = _
    simp [UInt32.toNat_add]
    omega
  next h =>
    have hcodes : ¬ (65 ≤ c.toNat ∧ c.toNat ≤ 90) := by simpa [UInt32.le_iff_toNat_le] using h
    rw [if_neg hcodes]

theorem toNat_toUpper (c : Char) :
    c.toUpper.toNat = if 97 ≤ c.toNat ∧ c.toNat ≤ 122 then c.toNat - 32 else c.toNat := by
  unfold Char.toUpper
  split
  next h =>
    have hcodes : 97 ≤ c.toNat ∧ c.toNat ≤ 122 := by simpa [UInt32.le_iff_toNat_le] using h
    rw [if_pos hcodes]
    show (c.val + _).toNat = _
    simp [UInt32.toNat_add]
    omega
  next h =>
    have hcodes : ¬ (97 ≤ c.toNat ∧ c.toNat ≤ 122) := by simpa [UInt32.le_iff_toNat_le] using h
    rw [if_neg hcodes]

theorem toLower_eq_iff {c letter : Char} (hletter : letter.isLower) :
    c.toLower = letter ↔ IsCaseOf c letter := by
  have hcodes := isLower_iff.mp hletter
  simp only [IsCaseOf, ← Char.toNat_inj, toNat_toLower, toNat_toUpper, if_pos hcodes]
  split <;> omega

theorem foldLetter_eq_iff {c letter : Char} (hletter : letter.isLower) :
    foldLetter c = letter ↔ FoldsTo c letter := by
  have hcodes := isLower_iff.mp hletter
  -- Neither sign beyond ASCII is a form of any other letter.
  have hbeyond : ∀ sign : Char, 127 < sign.toNat → ¬ IsCaseOf sign letter := by
    intro sign hsign
    simp only [IsCaseOf, ← Char.toNat_inj, toNat_toUpper, if_pos hcodes]
    omega
  have hlong : ¬ IsCaseOf '\u017f' letter := hbeyond _ (by decide)
  have hkelvin : ¬ IsCaseOf '\u212a' letter := hbeyond _ (by decide)
  rw [foldLetter, FoldsTo]
  by_cases hs : c = '\u017f'
  · subst hs
    simp [hlong, eq_comm]
  by_cases hk : c = '\u212a'
  · subst hk
    simp [hkelvin, eq_comm]
  · simp [hs, hk, toLower_eq_iff hletter]

/-! ### Words -/

/-- A word stands somewhere in a text, each of its letters in a form that is the same. -/
def Mentions (same : Char → Char → Prop) (word text : List Char) : Prop :=
  ∃ part, part <:+: text ∧ List.Forall₂ same part word

section

variable {fold : Char → Char} {same : Char → Char → Prop} {word text : List Char}
  (hfold : ∀ letter ∈ word, ∀ c, fold c = letter ↔ same c letter)

include hfold

theorem map_eq_iff_forall₂ : text.map fold = word ↔ List.Forall₂ same text word := by
  induction word generalizing text with
  | nil => simp
  | cons letter word ih =>
    obtain ⟨hletter, hword⟩ := List.forall_mem_cons.mp hfold
    cases text with
    | nil => simp
    | cons c text => rw [List.map_cons, List.cons.injEq, List.forall₂_cons, hletter, ih hword]

theorem occursIn_map_iff : occursIn word (text.map fold) ↔ Mentions same word text := by
  rw [occursIn_iff, List.infix_map_iff, Mentions]
  simp only [← map_eq_iff_forall₂ hfold, eq_comm]

end

theorem lowerAscii_eq_iff {s word : String} (hword : ∀ letter ∈ word.toList, letter.isLower) :
    lowerAscii s = word ↔ List.Forall₂ IsCaseOf s.toList word.toList := by
  rw [← String.toList_inj, lowerAscii, String.toList_ofList]
  exact map_eq_iff_forall₂ fun letter hletter _ => toLower_eq_iff (hword letter hletter)

variable {word : List Char} (hword : ∀ letter ∈ word, letter.isLower)

include hword

theorem occursIn_lowerAscii_iff {s : String} :
    occursIn word (lowerAscii s).toList ↔ Mentions IsCaseOf word s.toList := by
  rw [lowerAscii, String.toList_ofList]
  exact occursIn_map_iff fun letter hletter _ => toLower_eq_iff (hword letter hletter)

theorem occursIn_map_foldLetter_iff {text : List Char} :
    occursIn word (text.map foldLetter) ↔ Mentions FoldsTo word text :=
  occursIn_map_iff fun letter hletter _ => foldLetter_eq_iff (hword letter hletter)

end TriggerCompose.Text
