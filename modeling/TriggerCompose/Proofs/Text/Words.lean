import TriggerCompose.Text.Blank

/-!
# Words of a text

What cutting a text into words does to its parts: a blank ends a word, a blank-free
piece is one, and every word is such a piece.

## Main statements

* `Text.IsWord`: a text that is one word.
* `Text.words_append_blank`: a blank separates the words before and after it.
* `Text.isWord_of_mem_words`: every piece is a word.
* `Text.Spaced`: words in a row with blank characters between them.
* `Text.words_of_spaced`: words in a row are split again, whatever separates them.
-/

namespace TriggerCompose.Text

/-- A text that is one word: at least one character, and no blank one. -/
def IsWord (s : String) : Prop :=
  s ≠ "" ∧ hasBlank s = false

instance (s : String) : Decidable (IsWord s) :=
  inferInstanceAs (Decidable (_ ∧ _))

theorem hasBlank_append (s t : String) : hasBlank (s ++ t) = (hasBlank s || hasBlank t) := by
  simp [hasBlank]

theorem isWord_iff {s : String} :
    IsWord s ↔ s.toList ≠ [] ∧ ∀ c ∈ s.toList, isBlank c = false := by
  simp [IsWord, hasBlank]

theorem IsWord.append {s t : String} (hs : IsWord s) (ht : hasBlank t = false) :
    IsWord (s ++ t) := by
  refine ⟨?_, by rw [hasBlank_append, hs.2, ht]; rfl⟩
  intro hempty
  have hlist := congrArg String.toList hempty
  rw [String.toList_append] at hlist
  exact (isWord_iff.mp hs).1 (List.append_eq_nil_iff.mp hlist).1

theorem words_append_blank (before after : List Char) {blank : Char} (hblank : isBlank blank) :
    words (before ++ blank :: after) = words before ++ words after := by
  rw [words, List.splitOnP_append_cons before after hblank, List.filter_append]
  rfl

theorem words_of_isWord {s : String} (hs : IsWord s) : words s.toList = [s.toList] := by
  obtain ⟨hne, hblank⟩ := isWord_iff.mp hs
  simp [words, List.splitOnP_eq_singleton hblank, hne]

/-- Only a text of blank characters has no words. -/
theorem words_eq_nil_iff {text : List Char} : words text = [] ↔ ∀ c ∈ text, isBlank c := by
  induction text with
  | nil => simp [words]
  | cons c text ih =>
    rw [List.forall_mem_cons, ← ih]
    by_cases hc : isBlank c
    · have hrest : words (c :: text) = words text := words_append_blank [] text hc
      rw [hrest]
      exact (and_iff_right hc).symm
    · -- The character starts a word or joins the first one of the rest.
      obtain ⟨first, later, hsplit⟩ :=
        List.exists_cons_of_ne_nil (List.splitOnP_ne_nil isBlank text)
      have hfirst : words (c :: text) = (c :: first) :: later.filter (! ·.isEmpty) := by
        rw [words, List.splitOnP_cons_eq_if_modifyHead, if_neg hc, hsplit]
        rfl
      rw [hfirst]
      exact iff_of_false (List.cons_ne_nil _ _) fun h => hc h.1

theorem isBlank_of_mem_splitOnP {text piece : List Char} (hpiece : piece ∈ text.splitOnP isBlank)
    {c : Char} (hc : c ∈ piece) : isBlank c = false := by
  induction text generalizing piece with
  | nil => simp_all
  | cons d text ih =>
    rw [List.splitOnP_cons_eq_if_modifyHead] at hpiece
    split at hpiece
    next =>
      rcases List.mem_cons.mp hpiece with rfl | hlater
      · simp at hc
      · exact ih hlater hc
    next hd =>
      obtain ⟨first, rest, hsplit⟩ :=
        List.exists_cons_of_ne_nil (List.splitOnP_ne_nil isBlank text)
      rw [hsplit, List.modifyHead_cons] at hpiece
      rcases List.mem_cons.mp hpiece with rfl | hlater
      -- The character in front of the rest joins its first piece.
      · rcases List.mem_cons.mp hc with rfl | hfirst
        · simpa using hd
        · exact ih (by simp [hsplit]) hfirst
      · exact ih (by simp [hsplit, hlater]) hc

theorem isWord_of_mem_words {text w : List Char} (hw : w ∈ words text) :
    IsWord (String.ofList w) := by
  obtain ⟨hpiece, hne⟩ := List.mem_filter.mp hw
  rw [isWord_iff, String.toList_ofList]
  exact ⟨by simpa using hne, fun c hc => isBlank_of_mem_splitOnP hpiece hc⟩

/-! ### Words in a row -/

/-- A text that writes words in a row, with a gap of blank characters between each two. -/
inductive Spaced : List String → String → Prop where
  | nil : Spaced [] ""
  | single (w : String) : Spaced [w] w
  | cons {w gap text : String} {ws : List String} (hgap : gap ≠ "") (hblank : isBlankText gap)
      (hws : ws ≠ []) (later : Spaced ws text) : Spaced (w :: ws) (w ++ gap ++ text)

theorem spaced_intercalate {gap : String} (hgap : gap ≠ "") (hblank : isBlankText gap)
    (ws : List String) : Spaced ws (gap.intercalate ws) := by
  induction ws with
  | nil => exact .nil
  | cons w ws ih =>
    cases ws with
    | nil => exact .single w
    | cons v ws =>
      rw [String.intercalate_cons_cons]
      exact .cons hgap hblank (List.cons_ne_nil v ws) ih

/-- The first blank character of a gap separates words, and the others stand for none. -/
theorem words_append_gap {gap : List Char} (hne : gap ≠ []) (hgap : ∀ c ∈ gap, isBlank c)
    (before after : List Char) : words (before ++ (gap ++ after)) = words before ++ words after := by
  induction gap generalizing before with
  | nil => exact absurd rfl hne
  | cons blank gap ih =>
    rw [List.forall_mem_cons] at hgap
    rw [List.cons_append, words_append_blank _ _ hgap.1]
    by_cases hnil : gap = []
    · rw [hnil, List.nil_append]
    · have hafter : words (gap ++ after) = words after := ih hnil hgap.2 []
      rw [hafter]

/-- Words in a row are split into the same words, whatever blank characters separate them. -/
theorem words_of_spaced {ws : List String} {text : String} (htext : Spaced ws text)
    (hws : ∀ w ∈ ws, IsWord w) : words text.toList = ws.map String.toList := by
  induction htext with
  | nil => rfl
  | single w => exact words_of_isWord (hws w (by simp))
  | @cons w gap text ws hgap hblank _ _ ih =>
    have hblanks : ∀ c ∈ gap.toList, isBlank c := List.all_eq_true.mp hblank
    have hsplit : (w ++ gap ++ text).toList = w.toList ++ (gap.toList ++ text.toList) := by
      simp
    rw [hsplit, words_append_gap (by simpa using hgap) hblanks, words_of_isWord (hws w (by simp)),
      ih fun v hv => hws v (by simp [hv])]
    rfl

/-! ### Characters that are not blank -/

/-- A printable ASCII character other than the space is not blank. -/
theorem isBlank_eq_false {c : Char} (hlow : 33 ≤ c.toNat) (hhigh : c.toNat ≤ 126) :
    isBlank c = false := by
  have hne : ∀ d : Char, d.toNat < 33 ∨ 126 < d.toNat → (c == d) = false := by
    intro d hd
    rw [beq_eq_false_iff_ne]
    rintro rfl
    omega
  have hle : ∀ {a b : Char}, a ≤ b ↔ a.toNat ≤ b.toNat := by
    intro a b
    exact UInt32.le_iff_toNat_le
  have hcontrol : ¬ c ≤ '\r' := by
    rw [hle]
    simp only [Char.reduceToNat]; omega
  have hspaces : ¬ '\u2000' ≤ c := by
    rw [hle]
    simp only [Char.reduceToNat]; omega
  simp [isBlank, hne, hcontrol, hspaces]

theorem isBlank_of_isDigit {c : Char} (hdigit : c.isDigit) : isBlank c = false := by
  rw [Char.isDigit_iff_toNat] at hdigit
  simp only [Char.reduceToNat] at hdigit
  exact isBlank_eq_false (by omega) (by omega)

end TriggerCompose.Text
