import TriggerCompose.Predicate.Printer
import TriggerCompose.Proofs.Predicate.Parser

/-!
# The operator of a canonical fragment

A canonical fragment is detected as what it was written for. Quoted operands are
blanked out before symbols are looked for, and bare ones hold no character of a
symbol, so the only symbol in sight is the one that was written.

## Main statements

* `Predicate.isTrimmed_fragment`: a canonical fragment has no blank ends.
* `Predicate.withoutQuoted_comparisonOperand`: what detection sees of an operand.
* `Predicate.detect_fragment`: detection of a canonical fragment.
-/

namespace TriggerCompose.Predicate

/-! ### Operands of comparisons -/

/-- Without a quote to put around it or inside it, an operand of a comparison is bare. -/
theorem isBare_of_needsQuotes {s : List Char} (hs : quote ∉ s) (hbare : needsQuotes s = false) :
    s ≠ [] ∧ ∀ c ∈ s, isBare compareStop c := by
  simp only [needsQuotes, Bool.or_eq_false_iff, List.any_eq_false,
    List.isEmpty_eq_false_iff] at hbare
  refine ⟨hbare.1, fun c hc => isBare_iff.mpr ?_⟩
  have hchar := hbare.2 c hc
  have hquote : c ≠ quote := fun h => hs (h ▸ hc)
  simp_all

/-- An operand of a comparison stands between quotes or is bare. -/
theorem comparisonOperand_cases {s : List Char} (hs : quote ∉ s) :
    comparisonOperand s = quotedOperand s ∨
      comparisonOperand s = s ∧ s ≠ [] ∧ ∀ c ∈ s, isBare compareStop c := by
  unfold comparisonOperand
  split
  next => exact .inl rfl
  next hbare => exact .inr ⟨rfl, isBare_of_needsQuotes hs (by simpa using hbare)⟩

theorem quotedOperand_append (s rest : List Char) :
    quotedOperand s ++ rest = quote :: (s ++ quote :: rest) := by
  simp [quotedOperand]

theorem isTrimmed_quotedOperand (s : List Char) : Text.IsTrimmed (quotedOperand s) where
  head := rfl
  last := by
    rw [quotedOperand, List.getLast?_concat]
    rfl

theorem isTrimmed_comparisonOperand {s : List Char} (hs : quote ∉ s) :
    Text.IsTrimmed (comparisonOperand s) := by
  rcases comparisonOperand_cases hs with hquoted | ⟨hbare, -, hchars⟩
  · rw [hquoted]
    exact isTrimmed_quotedOperand s
  · rw [hbare]
    exact .of_forall fun c hc => (isBare_iff.mp (hchars c hc)).1

theorem isTrimmed_symbol (comparison : Comparison) : Text.IsTrimmed comparison.symbol := by
  cases comparison <;> exact ⟨rfl, rfl⟩

/-- A canonical fragment has no blank ends, whatever its operands hold. -/
theorem isTrimmed_fragment (operator : Operator) {field value : List Char} (hfield : quote ∉ field)
    (hvalue : quote ∉ value) : Text.IsTrimmed (fragment operator field value) := by
  have hequality : Text.IsTrimmed (equality field value) := by
    have hcolon : Text.IsTrimmed [':'] := ⟨rfl, rfl⟩
    simpa [equality] using
      ((isTrimmed_quotedOperand field).append hcolon).append (isTrimmed_quotedOperand value)
  cases operator with
  | is => exact hequality
  | isNot =>
    -- The opening holds a blank, but not at its ends.
    have hopen : Text.IsTrimmed ['N', 'O', 'T', ' ', '('] := ⟨rfl, rfl⟩
    have hclose : Text.IsTrimmed [')'] := ⟨rfl, rfl⟩
    exact (hopen.append hequality).append hclose
  | compare comparison =>
    exact ((isTrimmed_comparisonOperand hfield).append (isTrimmed_symbol comparison)).append
      (isTrimmed_comparisonOperand hvalue)

/-! ### Negations -/

theorem negationOpen?_fragment (field value : List Char) :
    negationOpen? (fragment .isNot field value) = some (equality field value ++ [')']) :=
  negationOpen?_eq_some_iff.mpr ⟨[' '], List.forall_mem_singleton.mpr rfl, by simp [fragment]⟩

theorem negationOpen?_quote (rest : List Char) : negationOpen? (quote :: rest) = none := by
  rw [Option.eq_none_iff_forall_ne_some]
  intro inner hopen
  obtain ⟨gap, -, htext⟩ := negationOpen?_eq_some_iff.mp hopen
  cases htext

theorem symbol_eq_cons (comparison : Comparison) :
    ∃ c later, comparison.symbol = c :: later ∧ (c = '<' ∨ c = '>') := by
  cases comparison <;> exact ⟨_, _, rfl, by decide⟩

/-- The bare run at the front of a negation is its `NOT`, so what follows the run is
    white space or the parenthesis, and never a symbol. -/
theorem negationOpen?_bare {run rest : List Char} {c : Char}
    (hrun : ∀ d ∈ run, isBare compareStop d)
    (hc : c = '<' ∨ c = '>') : negationOpen? (run ++ c :: rest) = none := by
  rw [Option.eq_none_iff_forall_ne_some]
  intro inner hopen
  obtain ⟨gap, hgap, htext⟩ := negationOpen?_eq_some_iff.mp hopen
  have hstop : (c :: rest).head?.any (isBare compareStop) = false := by
    rcases hc with rfl | rfl <;> rfl
  have hword : ∀ d ∈ ['N', 'O', 'T'], isBare compareStop d := List.all_eq_true.mp rfl
  have hdrop := congrArg (List.dropWhile (isBare compareStop)) htext
  rw [(Text.span_append hrun hstop).2, List.dropWhile_append_of_pos hword] at hdrop
  -- `hdrop` now equates the symbol with what stops the bare run of the negation.
  cases gap with
  | nil =>
    have hparen : c = '(' := (List.cons.inj hdrop).1
    subst hparen
    exact absurd hc (by decide)
  | cons d gap =>
    have hspace : isSpace d := hgap d List.mem_cons_self
    have hbare : ¬ isBare compareStop d := by
      intro hd
      rw [isBare_iff, isBlank_of_isSpace hspace] at hd
      exact Bool.noConfusion hd.1
    rw [List.cons_append, List.dropWhile_cons_of_neg hbare] at hdrop
    have hblank : c = d := (List.cons.inj hdrop).1
    subst hblank
    rcases hc with rfl | rfl <;> exact absurd hspace (by decide)

theorem negationOpen?_comparison (comparison : Comparison) {s : List Char} (hs : quote ∉ s)
    (rest : List Char) :
    negationOpen? (comparisonOperand s ++ (comparison.symbol ++ rest)) = none := by
  rcases comparisonOperand_cases hs with hquoted | ⟨hbare, -, hchars⟩
  · rw [hquoted, quotedOperand_append]
    exact negationOpen?_quote _
  · obtain ⟨c, later, hsymbol, hc⟩ := symbol_eq_cons comparison
    rw [hbare, hsymbol]
    exact negationOpen?_bare hchars hc

/-! ### Symbols -/

/-- A quoted operand is blanked out, its quotes included. -/
theorem withoutQuoted_quote {s : List Char} (hs : quote ∉ s) (rest : List Char) :
    withoutQuoted (quote :: (s ++ quote :: rest)) = ' ' :: withoutQuoted rest := by
  rw [withoutQuoted, if_pos (by simp)]
  split
  next hdrop => simp [(span_quote hs rest).2] at hdrop
  next _ after hdrop =>
    rw [(span_quote hs rest).2] at hdrop
    cases hdrop
    rfl

theorem withoutQuoted_append {s : List Char} (hs : quote ∉ s) (rest : List Char) :
    withoutQuoted (s ++ rest) = s ++ withoutQuoted rest := by
  induction s with
  | nil => rfl
  | cons c s ih =>
    rw [List.mem_cons, not_or] at hs
    rw [List.cons_append, withoutQuoted, if_neg (by simpa using Ne.symm hs.1), ih hs.2]
    rfl

/-- What detection sees of an operand of a comparison holds no character of a symbol. -/
theorem withoutQuoted_comparisonOperand {s : List Char} (hs : quote ∉ s) :
    ∃ seen, '<' ∉ seen ∧ '>' ∉ seen ∧ '=' ∉ seen ∧
      ∀ rest, withoutQuoted (comparisonOperand s ++ rest) = seen ++ withoutQuoted rest := by
  rcases comparisonOperand_cases hs with hquoted | ⟨hbare, -, hchars⟩
  · refine ⟨[' '], by decide, by decide, by decide, fun rest => ?_⟩
    rw [hquoted, quotedOperand_append, withoutQuoted_quote hs]
    rfl
  · have hstop : ∀ c ∈ compareStop, c ∉ s := fun c hstop hc =>
      (isBare_iff.mp (hchars c hc)).2.2 hstop
    refine ⟨s, hstop _ (by decide), hstop _ (by decide), hstop _ (by decide), fun rest => ?_⟩
    rw [hbare, withoutQuoted_append hs]

/-- Between pieces without characters of symbols, a symbol occurs when it starts the one
    that stands there. -/
theorem occursIn_symbol (sought written : Comparison) {before after : List Char}
    (hlessBefore : '<' ∉ before) (hgreaterBefore : '>' ∉ before) (hless : '<' ∉ after)
    (hgreater : '>' ∉ after) (hequal : '=' ∉ after) :
    Text.occursIn sought.symbol (before ++ (written.symbol ++ after)) =
      sought.symbol.isPrefixOf written.symbol := by
  have hbefore : Text.occursIn sought.symbol (before ++ (written.symbol ++ after)) =
      Text.occursIn sought.symbol (written.symbol ++ after) := by
    cases sought <;> exact Text.occursIn_append (by assumption)
  have hafter : Text.occursIn sought.symbol after = false := by
    cases sought <;> exact Text.occursIn_eq_false (by assumption)
  -- What follows a written symbol cannot make a longer one of it.
  have hend : ['='].isPrefixOf after = false := by
    cases after with
    | nil => rfl
    | cons c after =>
      rw [List.mem_cons, not_or] at hequal
      simp [List.isPrefixOf, hequal.1]
  rw [hbefore]
  cases sought <;> cases written <;>
    simp_all [Text.occursIn, Comparison.symbol, List.isPrefixOf]

/-- The longer symbols are looked for first, so the first that starts the written one is
    the written one. -/
theorem find?_priority (written : Comparison) :
    (Comparison.priority.find? fun sought => sought.symbol.isPrefixOf written.symbol) =
      some written := by
  cases written <;> rfl

theorem find?_comparison (comparison : Comparison) {field value : List Char}
    (hfield : quote ∉ field) (hvalue : quote ∉ value) :
    (Comparison.priority.find? fun sought => Text.occursIn sought.symbol
      (withoutQuoted (fragment (.compare comparison) field value))) = some comparison := by
  obtain ⟨before, hless, hgreater, -, hbefore⟩ := withoutQuoted_comparisonOperand hfield
  obtain ⟨after, hless', hgreater', hequal', hafter⟩ := withoutQuoted_comparisonOperand hvalue
  have hsymbol : quote ∉ comparison.symbol := by
    cases comparison <;> decide
  have hseen : withoutQuoted (fragment (.compare comparison) field value) =
      before ++ (comparison.symbol ++ after) := by
    have hend := hafter []
    rw [withoutQuoted, List.append_nil, List.append_nil] at hend
    rw [fragment, List.append_assoc, hbefore, withoutQuoted_append hsymbol, hend]
  simp only [hseen, occursIn_symbol _ comparison hless hgreater hless' hgreater' hequal']
  exact find?_priority comparison

/-- A canonical fragment is detected as what it was written for. -/
theorem detect_fragment (operator : Operator) {field value : List Char} (hfield : quote ∉ field)
    (hvalue : quote ∉ value) : Operator.detect (fragment operator field value) = operator := by
  rw [Operator.detect, (isTrimmed_fragment operator hfield hvalue).trimStart_eq]
  cases operator with
  | is =>
    have hseen : withoutQuoted (equality field value) = [' ', ':', ' '] := by
      rw [equality, quotedOperand_append, withoutQuoted_quote hfield,
        ← List.append_nil (quotedOperand value), quotedOperand_append]
      rw [withoutQuoted, if_neg (by decide), withoutQuoted_quote hvalue, withoutQuoted]
    have hopen : negationOpen? (equality field value) = none := by
      rw [equality, quotedOperand_append]
      exact negationOpen?_quote _
    rw [fragment, hopen, hseen]
    rfl
  | isNot =>
    rw [negationOpen?_fragment]
    rfl
  | compare comparison =>
    have hopen : negationOpen? (fragment (.compare comparison) field value) = none := by
      rw [fragment, List.append_assoc]
      exact negationOpen?_comparison comparison hfield _
    rw [hopen, find?_comparison comparison hfield hvalue]
    rfl

end TriggerCompose.Predicate
