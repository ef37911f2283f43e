import TriggerCompose.Proofs.Predicate.Detection

/-!
# Canonical fragments read back

A predicate without quotes in its operands is written, and the fragment is parsed to
the same predicate, with any other characters in the operands.

## Main statements

* `Predicate.readOperands_fragment`: the operands of a canonical fragment.
* `Predicate.render_eq_error_iff`: which predicates are refused.
* `Predicate.parse_render`: the round trip.
-/

namespace TriggerCompose.Predicate

/-! ### Operands -/

theorem skipSpace_quotedOperand (s rest : List Char) :
    skipSpace (quotedOperand s ++ rest) = quotedOperand s ++ rest :=
  skipSpace_eq_self rfl

/-- The equality that stands in a canonical fragment, in front of its end or of the
    parenthesis that closes a negation. -/
theorem readEquality_equality {field value : List Char} (hfield : quote ∉ field)
    (hvalue : quote ∉ value) (rest : List Char) :
    readEquality (equality field value ++ rest) = .ok ((field, value), skipSpace rest) := by
  rw [readEquality_eq_ok_iff]
  refine ⟨':' :: (quotedOperand value ++ rest), quotedOperand value ++ rest, rest, ?_, ?_, ?_, rfl⟩
  · rw [equality, List.append_assoc, List.cons_append, quotedOperand_append]
    exact operand_quote hfield _ _
  · exact skipSpace_eq_self rfl
  · rw [skipSpace_quotedOperand, quotedOperand_append]
    exact operand_quote hvalue _ _

/-- An operand of a comparison is read back, quoted or bare, where it is followed by a
    symbol or by nothing. -/
theorem operand_comparisonOperand {s rest : List Char} (hs : quote ∉ s)
    (hrest : rest.head?.any (isBare compareStop) = false) :
    operand compareStop (comparisonOperand s ++ rest) = .found s rest := by
  rcases comparisonOperand_cases hs with hquoted | ⟨hbare, hne, hchars⟩
  · rw [hquoted, quotedOperand_append]
    exact operand_quote hs _ _
  · rw [hbare]
    exact operand_bare hne hchars hrest

theorem readComparison_fragment (comparison : Comparison) {field value : List Char}
    (hfield : quote ∉ field) (hvalue : quote ∉ value) :
    readComparison comparison (fragment (.compare comparison) field value) =
      .ok ((field, value), []) := by
  have hsymbol : (comparison.symbol ++ comparisonOperand value).head?.any
      (isBare compareStop) = false := by
    cases comparison <;> rfl
  have hskip : skipSpace (comparison.symbol ++ comparisonOperand value) =
      comparison.symbol ++ comparisonOperand value :=
    skipSpace_of_isTrimmed
      ((isTrimmed_symbol comparison).append (isTrimmed_comparisonOperand hvalue))
  rw [readComparison_eq_ok_iff]
  refine ⟨comparison.symbol ++ comparisonOperand value, comparisonOperand value, [], ?_, hskip, ?_,
    rfl⟩
  · rw [fragment, List.append_assoc]
    exact operand_comparisonOperand hfield hsymbol
  · rw [skipSpace_of_isTrimmed (isTrimmed_comparisonOperand hvalue),
      ← List.append_nil (comparisonOperand value)]
    exact operand_comparisonOperand hvalue rfl

/-- The operands of a canonical fragment use it up. -/
theorem readOperands_fragment (operator : Operator) {field value : List Char}
    (hfield : quote ∉ field) (hvalue : quote ∉ value) :
    readOperands operator (fragment operator field value) = .ok ((field, value), []) := by
  cases operator with
  | is =>
    have hread := readEquality_equality hfield hvalue []
    rw [List.append_nil] at hread
    exact hread
  | isNot =>
    have hclose : skipSpace [')'] = [')'] := rfl
    refine readNegation_eq_ok_iff.mpr ⟨_, [], negationOpen?_fragment field value, ?_, rfl⟩
    rw [equality, List.append_assoc, skipSpace_quotedOperand, ← List.append_assoc, ← equality,
      readEquality_equality hfield hvalue, hclose]
  | compare comparison => exact readComparison_fragment comparison hfield hvalue

/-! ### Predicates -/

/-- A predicate is refused for a quote in its field or its value and for nothing else. -/
theorem render_eq_error_iff {p : Predicate} :
    (∃ e, render p = .error e) ↔ quote ∈ p.field.toList ∨ quote ∈ p.value.toList := by
  unfold render
  split
  next operand hfind =>
    have hoperand := List.find?_some hfind
    have hmem := List.mem_of_find?_eq_some hfind
    simp only [List.contains_iff_mem, List.mem_cons, List.not_mem_nil, or_false] at hoperand hmem
    refine iff_of_true ⟨_, rfl⟩ ?_
    rcases hmem with rfl | rfl
    · exact .inl hoperand
    · exact .inr hoperand
  next hfind =>
    simpa using hfind

theorem render_of_not_mem {p : Predicate} (hfield : quote ∉ p.field.toList)
    (hvalue : quote ∉ p.value.toList) :
    render p = .ok (String.ofList (fragment p.operator p.field.toList p.value.toList)) := by
  simp [render, hfield, hvalue]

/-- Writing a predicate fails for a quote in its field or its value and for nothing else,
    and what is written otherwise is parsed to the same predicate. -/
theorem parse_render (p : Predicate) :
    ((∃ e, render p = .error e) ↔ quote ∈ p.field.toList ∨ quote ∈ p.value.toList) ∧
      ((∃ text, render p = .ok text ∧ parse text = .ok p) ↔
        ¬ (quote ∈ p.field.toList ∨ quote ∈ p.value.toList)) := by
  refine ⟨render_eq_error_iff, ?_⟩
  constructor
  · rintro ⟨text, hrender, -⟩ hquote
    obtain ⟨e, herror⟩ := render_eq_error_iff.mpr hquote
    rw [hrender] at herror
    cases herror
  · intro hquote
    obtain ⟨hfield, hvalue⟩ := not_or.mp hquote
    refine ⟨_, render_of_not_mem hfield hvalue, parse_eq_ok_iff.mpr ?_⟩
    rw [String.toList_ofList]
    refine ⟨(detect_fragment p.operator hfield hvalue).symm, ?_⟩
    rw [(isTrimmed_fragment p.operator hfield hvalue).trim_eq]
    exact readOperands_fragment p.operator hfield hvalue

end TriggerCompose.Predicate
