import TriggerCompose.Proofs.Text.Spans
import TriggerCompose.Text.Word

/-!
# Blank characters in searched texts

No blank character belongs to a word, and folding does not change it. So the blanks that
trimming removes are at no end of a word.

## Main statements

* `Text.isWord_of_isBlank`, `Text.foldLetter_of_isBlank`: a blank character.
* `Text.exists_blanks_trim`: what trimming removes.
-/

namespace TriggerCompose.Text

/-- The code points of the blank characters. -/
def blankCodes : List Nat :=
  [9, 10, 11, 12, 13, 32, 0x85, 0xa0, 0x1680, 0x2000, 0x2001, 0x2002, 0x2003, 0x2004, 0x2005,
    0x2006, 0x2007, 0x2008, 0x2009, 0x200a, 0x2028, 0x2029, 0x202f, 0x205f, 0x3000]

theorem toNat_mem_blankCodes {c : Char} (hc : isBlank c) : c.toNat ∈ blankCodes := by
  have hle : ∀ {a b : Char}, a ≤ b ↔ a.toNat ≤ b.toNat := by
    intro a b
    exact UInt32.le_iff_toNat_le
  simp only [isBlank, Bool.or_eq_true, Bool.and_eq_true, decide_eq_true_eq, beq_iff_eq, hle,
    ← Char.toNat_inj, Char.reduceToNat] at hc
  simp only [blankCodes, List.mem_cons, List.not_mem_nil, or_false]
  omega

theorem isWord_of_isBlank {c : Char} (hc : isBlank c) : isWord c = false := by
  have hcodes : ∀ n ∈ blankCodes, isWord (Char.ofNat n) = false := by decide +kernel
  rw [← Char.ofNat_toNat c]
  exact hcodes _ (toNat_mem_blankCodes hc)

theorem foldLetter_of_isBlank {c : Char} (hc : isBlank c) : foldLetter c = c := by
  have hcodes : ∀ n ∈ blankCodes, foldLetter (Char.ofNat n) = Char.ofNat n := by decide +kernel
  rw [← Char.ofNat_toNat c]
  exact hcodes _ (toNat_mem_blankCodes hc)

theorem exists_blanks_trimEnd (text : List Char) :
    ∃ after, text = trimEnd text ++ after ∧ ∀ c ∈ after, isBlank c := by
  refine ⟨(text.reverse.takeWhile isBlank).reverse, ?_, ?_⟩
  · rw [trimEnd, ← List.reverse_append, List.takeWhile_append_dropWhile, List.reverse_reverse]
  · intro c hc
    exact List.all_eq_true.mp List.all_takeWhile c (List.mem_reverse.mp hc)

/-- Trimming removes blank characters at the two ends. -/
theorem exists_blanks_trim (text : List Char) :
    ∃ before after, text = before ++ (trim text ++ after) ∧ (∀ c ∈ before, isBlank c) ∧
      ∀ c ∈ after, isBlank c := by
  have hstart : text.takeWhile isBlank ++ trimStart text = text := List.takeWhile_append_dropWhile
  obtain ⟨after, hend, hafter⟩ := exists_blanks_trimEnd (trimStart text)
  rw [← trim] at hend
  refine ⟨text.takeWhile isBlank, after, ?_, ?_, hafter⟩
  · rw [← hend, hstart]
  · intro c hc
    exact List.all_eq_true.mp List.all_takeWhile c hc

theorem toList_trimmed (s : String) : (trimmed s).toList = trim s.toList :=
  String.toList_ofList

theorem trimmed_trimmed (s : String) : trimmed (trimmed s) = trimmed s := by
  rw [trimmed, toList_trimmed, (isTrimmed_trim s.toList).trim_eq]
  rfl

theorem trimmed_ne_empty {s : String} (hs : isBlankText s = false) : trimmed s ≠ "" := by
  intro hempty
  have htrim : trim s.toList = [] := by
    rw [← toList_trimmed, hempty]
    rfl
  obtain ⟨before, after, htext, hbefore, hafter⟩ := exists_blanks_trim s.toList
  rw [htrim, List.nil_append] at htext
  have hblank : isBlankText s = true := by
    rw [isBlankText, htext, List.all_append, Bool.and_eq_true, List.all_eq_true, List.all_eq_true]
    exact ⟨hbefore, hafter⟩
  rw [hs] at hblank
  cases hblank

theorem mem_of_mem_trimmed {s : String} {c : Char} (hc : c ∈ (trimmed s).toList) :
    c ∈ s.toList := by
  obtain ⟨before, after, htext, -, -⟩ := exists_blanks_trim s.toList
  rw [toList_trimmed] at hc
  rw [htext]
  exact List.mem_append_right _ (List.mem_append_left _ hc)

end TriggerCompose.Text
