import TriggerCompose.Text.Blank
import TriggerCompose.Text.Search

/-!
# Runs, ends and occurrences

How a text that is put together of pieces is cut up again: a run at its front, the
blank characters at its ends, and the places where a pattern occurs.

## Main definitions

* `Text.IsTrimmed`: no blank character at either end.

## Main statements

* `Text.span_append`: a run ends where the next character does not belong to it.
* `Text.append_append_eq_append_cons`: a piece stands on one side of a character that it
  does not hold.
* `Text.IsTrimmed.trim_eq`: trimming leaves a trimmed text as it is.
* `Text.isTrimmed_trim`: trimming leaves no blank ends.
* `Text.occursIn_iff`: a pattern that occurs is an infix.
* `Text.occursIn_append`: a pattern cannot start among characters other than its first.
-/

namespace TriggerCompose.Text

/-- A run ends where the next character does not belong to it. -/
theorem span_append {p : Char → Bool} {run rest : List Char} (hrun : ∀ c ∈ run, p c)
    (hrest : rest.head?.any p = false) :
    (run ++ rest).takeWhile p = run ∧ (run ++ rest).dropWhile p = rest := by
  rw [List.takeWhile_append_of_pos hrun, List.dropWhile_append_of_pos hrun]
  cases rest with
  | nil => simp
  | cons c rest =>
    have hc : p c = false := hrest
    simp [hc]

/-- A piece without a certain character ends before the first place of it. -/
theorem append_eq_append_cons {c : Char} {piece rest left right : List Char} (hpiece : c ∉ piece)
    (htext : piece ++ rest = left ++ c :: right) :
    ∃ later, left = piece ++ later ∧ rest = later ++ c :: right := by
  rcases List.append_eq_append_iff.mp htext with
    ⟨later, hleft, hrest⟩ | ⟨surplus, hsurplus, hright⟩
  · exact ⟨later, hleft, hrest⟩
  · cases surplus with
    | nil => exact ⟨[], by simpa using hsurplus.symm, hright.symm⟩
    | cons d surplus =>
      obtain ⟨rfl, -⟩ := List.cons.inj hright
      exact absurd (by simp [hsurplus]) hpiece

/-- A piece without a certain character stands before each place of it or after. -/
theorem append_append_eq_append_cons {c : Char} {before piece after left right : List Char}
    (hpiece : c ∉ piece) (htext : before ++ (piece ++ after) = left ++ c :: right) :
    (∃ later, left = before ++ (piece ++ later) ∧ after = later ++ c :: right) ∨
      ∃ earlier, before = left ++ c :: earlier ∧ right = earlier ++ (piece ++ after) := by
  rcases List.append_eq_append_iff.mp htext with
    ⟨rest, rfl, hrest⟩ | ⟨surplus, hsurplus, hright⟩
  · obtain ⟨later, rfl, hafter⟩ := append_eq_append_cons hpiece hrest
    exact .inl ⟨later, rfl, hafter⟩
  · cases surplus with
    | nil =>
      have hrest : piece ++ after = [] ++ c :: right := hright.symm
      obtain ⟨later, hnil, hafter⟩ := append_eq_append_cons hpiece hrest
      exact .inl ⟨later, by rw [← hnil, hsurplus, List.append_nil, List.append_nil], hafter⟩
    | cons d surplus =>
      obtain ⟨rfl, hlater⟩ := List.cons.inj hright
      exact .inr ⟨surplus, hsurplus, hlater⟩

/-- A piece that shares no character with the end of a text stands before that end. -/
theorem append_append_eq_append {before piece after text ending : List Char} (hne : piece ≠ [])
    (hending : ∀ c ∈ ending, c ∉ piece) (htext : before ++ (piece ++ after) = text ++ ending) :
    ∃ later, text = before ++ (piece ++ later) ∧ after = later ++ ending := by
  rcases List.append_eq_append_iff.mp htext with ⟨rest, rfl, hrest⟩ | ⟨surplus, -, hsurplus⟩
  · rcases List.append_eq_append_iff.mp hrest with ⟨later, rfl, hafter⟩ | ⟨surplus, rfl, rfl⟩
    · exact ⟨later, rfl, hafter⟩
    · cases surplus with
      | nil => exact ⟨[], by simp, rfl⟩
      | cons c surplus => exact absurd (by simp) (hending c (by simp))
  · obtain ⟨c, piece, rfl⟩ := List.exists_cons_of_ne_nil hne
    exact absurd (by simp) (hending c (by simp [hsurplus]))

/-! ### Ends -/

/-- A text with no blank character at either end. -/
structure IsTrimmed (text : List Char) : Prop where
  head : text.head?.any isBlank = false
  last : text.getLast?.any isBlank = false

namespace IsTrimmed

/-- Two trimmed texts in a row are trimmed, also where one of them is empty. -/
theorem append {text rest : List Char} (htext : IsTrimmed text) (hrest : IsTrimmed rest) :
    IsTrimmed (text ++ rest) where
  head := by
    cases text with
    | nil => exact hrest.head
    | cons c text => exact htext.head
  last := by
    cases hlast : rest.getLast? with
    | none => simpa [List.getLast?_append, hlast] using htext.last
    | some c => simpa [List.getLast?_append, hlast] using hrest.last

theorem of_forall {text : List Char} (h : ∀ c ∈ text, isBlank c = false) : IsTrimmed text where
  head := (Option.any_eq_false _ _).mpr fun c hc => h c (List.mem_of_mem_head? hc)
  last := (Option.any_eq_false _ _).mpr fun c hc => h c (List.mem_of_getLast? hc)

theorem cons {c : Char} {text : List Char} (hc : isBlank c = false) (h : IsTrimmed text) :
    IsTrimmed (c :: text) :=
  IsTrimmed.append (.of_forall fun _ hd => by rwa [List.mem_singleton.mp hd]) h

/-- What stands between two trimmed pieces may be blank. -/
theorem append_append {before after : List Char} (hbefore : IsTrimmed before)
    (hafter : IsTrimmed after) (between : List Char) (hne : before ≠ []) (hne' : after ≠ []) :
    IsTrimmed (before ++ (between ++ after)) where
  head := by
    obtain ⟨c, text, rfl⟩ := List.exists_cons_of_ne_nil hne
    exact hbefore.head
  last := by
    cases hlast : after.getLast? with
    | none => exact absurd (List.getLast?_eq_none_iff.mp hlast) hne'
    | some c => simpa [List.getLast?_append, hlast] using hafter.last

theorem trimStart_eq {text : List Char} (h : IsTrimmed text) : trimStart text = text :=
  (span_append (List.forall_mem_nil _) h.head).2

theorem trim_eq {text : List Char} (h : IsTrimmed text) : trim text = text := by
  have hend : text.reverse.dropWhile isBlank = text.reverse :=
    (span_append (List.forall_mem_nil _) (by simpa using h.last)).2
  rw [trim, h.trimStart_eq, trimEnd, hend, List.reverse_reverse]

/-- Trimming removes all blank characters around a trimmed text. -/
theorem trim_append {before text after : List Char} (h : IsTrimmed text)
    (hbefore : ∀ c ∈ before, isBlank c) (hafter : ∀ c ∈ after, isBlank c) :
    trim (before ++ (text ++ after)) = text := by
  rw [trim, trimStart, List.dropWhile_append_of_pos hbefore]
  cases text with
  | nil =>
    have hnone := (@span_append isBlank after [] hafter rfl).2
    rw [List.append_nil] at hnone
    rw [List.nil_append, hnone]
    rfl
  | cons c text =>
    have hhead : (c :: text ++ after).head?.any isBlank = false := h.head
    have hlast : (c :: text).reverse.head?.any isBlank = false := by
      rw [List.head?_reverse]
      exact h.last
    have hstart : (c :: text ++ after).dropWhile isBlank = c :: text ++ after :=
      (span_append (List.forall_mem_nil _) hhead).2
    have hblank : ∀ d ∈ after.reverse, isBlank d := fun d hd => hafter d (List.mem_reverse.mp hd)
    rw [hstart, trimEnd, List.reverse_append, (span_append hblank hlast).2, List.reverse_reverse]

end IsTrimmed

theorem head?_dropWhile (p : Char → Bool) (text : List Char) :
    (text.dropWhile p).head?.any p = false := by
  have hhead := List.head?_dropWhile_not p text
  rw [Option.any_eq_false]
  intro c hc
  rw [hc] at hhead
  simpa using hhead

/-- Trimming leaves no blank character at either end. -/
theorem isTrimmed_trim (text : List Char) : IsTrimmed (trim text) where
  head := by
    -- What trimming the end leaves is a prefix, so it has the same head.
    obtain ⟨later, hlater⟩ : trim text <+: trimStart text := by
      rw [← List.reverse_suffix, trim, trimEnd, List.reverse_reverse]
      exact List.dropWhile_suffix isBlank
    have hstart := head?_dropWhile isBlank text
    rw [← trimStart, ← hlater] at hstart
    cases htrim : trim text with
    | nil => rfl
    | cons c rest => simpa [htrim] using hstart
  last := by
    rw [trim, trimEnd, List.getLast?_reverse]
    exact head?_dropWhile isBlank _

/-! ### Occurrences -/

/-- A pattern cannot start among characters other than its first. -/
theorem occursIn_append {c : Char} {pattern before after : List Char} (hc : c ∉ before) :
    occursIn (c :: pattern) (before ++ after) = occursIn (c :: pattern) after := by
  induction before with
  | nil => rfl
  | cons d before ih =>
    rw [List.mem_cons, not_or] at hc
    simp [occursIn, hc.1, ih hc.2]

theorem occursIn_iff {pattern text : List Char} : occursIn pattern text ↔ pattern <:+: text := by
  induction text with
  | nil => simp [occursIn]
  | cons c text ih =>
    rw [occursIn, Bool.or_eq_true, List.isPrefixOf_iff_prefix, ih, List.infix_cons_iff]

theorem occursIn_eq_false {c : Char} {pattern text : List Char} (hc : c ∉ text) :
    occursIn (c :: pattern) text = false := by
  have happend : occursIn (c :: pattern) (text ++ []) = occursIn (c :: pattern) [] :=
    occursIn_append hc
  simpa [occursIn] using happend

end TriggerCompose.Text
