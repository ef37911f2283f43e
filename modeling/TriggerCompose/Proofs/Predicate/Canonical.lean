import TriggerCompose.Cli.Program
import TriggerCompose.Proofs.Predicate.Grammar
import TriggerCompose.Proofs.Predicate.RoundTrip

/-!
# Canonical fragments of parsed predicates

However a fragment is spelled, its operands hold no quote: a quoted operand ends at the next
one, and a bare one does not go past it. So whatever is parsed can be written, the fragment
that is written is parsed to the same predicate, and writing that one again changes nothing.

## Main statements

* `Predicate.quote_notMem_of_parse`: no operand that was parsed holds a quote.
* `Predicate.exists_render_of_parse`: what was parsed can be written.
* `Predicate.printPredicate_canonical`: the canonical fragment of a fragment.
-/

namespace TriggerCompose.Predicate

open Program (printPredicate)

/-! ### Operands of derivations -/

theorem Lexeme.quote_notMem_operand {stop : List Char} (l : Lexeme stop) : quote ∉ l.operand := by
  cases l with
  | quoted content closed => exact closed
  | bare run ne chars =>
    intro hquote
    exact (chars quote hquote).2.1 rfl

theorem Derivation.quote_notMem_operands {operator : Operator} (d : Derivation operator) :
    quote ∉ d.operands.1 ∧ quote ∉ d.operands.2 := by
  cases d with
  | is e => exact ⟨e.field.quote_notMem_operand, e.value.quote_notMem_operand⟩
  | isNot _ _ e _ => exact ⟨e.field.quote_notMem_operand, e.value.quote_notMem_operand⟩
  | compare field _ _ value => exact ⟨field.quote_notMem_operand, value.quote_notMem_operand⟩

/-- The operands of a parsed predicate hold no quote. -/
theorem quote_notMem_of_parse {text : String} {p : Predicate} (hparse : parse text = .ok p) :
    quote ∉ p.field.toList ∧ quote ∉ p.value.toList := by
  obtain ⟨-, hread⟩ := parse_eq_ok_iff.mp hparse
  obtain ⟨d, -, hoperands⟩ := (readOperands_eq_ok_iff (Text.isTrimmed_trim _)).mp hread
  have hquote := d.quote_notMem_operands
  rwa [hoperands] at hquote

/-! ### Fragments of predicates -/

theorem parse_fragment {p : Predicate} (hfield : quote ∉ p.field.toList)
    (hvalue : quote ∉ p.value.toList) :
    parse (String.ofList (fragment p.operator p.field.toList p.value.toList)) = .ok p := by
  rw [parse_eq_ok_iff, String.toList_ofList, detect_fragment p.operator hfield hvalue,
    (isTrimmed_fragment p.operator hfield hvalue).trim_eq]
  exact ⟨rfl, readOperands_fragment p.operator hfield hvalue⟩

/-- What some fragment stands for can be written, and the fragment that is written stands for
    it too. -/
theorem exists_render_of_parse {text : String} {p : Predicate} (hparse : parse text = .ok p) :
    ∃ canonical, render p = .ok canonical ∧ parse canonical = .ok p := by
  obtain ⟨hfield, hvalue⟩ := quote_notMem_of_parse hparse
  exact ⟨_, render_of_not_mem hfield hvalue, parse_fragment hfield hvalue⟩

/-! ### Printing -/

theorem printPredicate_of_parse {text : String} {p : Predicate} (hparse : parse text = .ok p)
    (canonical : Bool) :
    printPredicate text canonical =
      if canonical then Command.renderPredicate p else .ok p.toJson.pretty := by
  rw [printPredicate, Command.parsePredicate, hparse]
  rfl

theorem printPredicate_of_error {text : String} {e : ParseError} (hparse : parse text = .error e)
    (canonical : Bool) : printPredicate text canonical = .error (.failure e.failure) := by
  rw [printPredicate, Command.parsePredicate, hparse]
  rfl

theorem printPredicate_of_render {text canonical : String} {p : Predicate}
    (hparse : parse text = .ok p) (hrender : render p = .ok canonical) :
    printPredicate text true = .ok canonical := by
  rw [printPredicate_of_parse hparse, if_pos rfl, Command.renderPredicate, hrender]
  rfl

/-- Every fragment that is parsed has a canonical fragment. It stands for the same predicate,
    and it is its own canonical fragment. Printing it fails for no other fragments, and
    with no other errors, than printing the predicate. -/
theorem printPredicate_canonical (text : String) :
    (∀ p, parse text = .ok p → (quote ∉ p.field.toList ∧ quote ∉ p.value.toList) ∧
        ∃ canonical, render p = .ok canonical ∧ parse canonical = .ok p ∧
          printPredicate text true = .ok canonical ∧
          printPredicate canonical true = .ok canonical) ∧
      ∀ e, printPredicate text true = .error e ↔ printPredicate text false = .error e := by
  constructor
  · intro p hparse
    obtain ⟨canonical, hrender, hcanonical⟩ := exists_render_of_parse hparse
    refine ⟨quote_notMem_of_parse hparse, canonical, hrender, hcanonical, ?_, ?_⟩
    · exact printPredicate_of_render hparse hrender
    · exact printPredicate_of_render hcanonical hrender
  · intro e
    cases hparse : parse text with
    | error e' => rw [printPredicate_of_error hparse, printPredicate_of_error hparse]
    | ok p =>
      obtain ⟨canonical, hrender, -⟩ := exists_render_of_parse hparse
      rw [printPredicate_of_render hparse hrender, printPredicate_of_parse hparse,
        if_neg Bool.false_ne_true]
      exact iff_of_false nofun nofun

/-- White space inside a negation and blanks around it are not kept, and a bare operand is
    quoted. -/
theorem printPredicate_canonical_spaced :
    let text := "\u00a0NOT\t( host:name )\u2003"
    let canonical := "NOT (\"host\":\"name\")"
    let p : Predicate := ⟨"host", .isNot, "name"⟩
    parse text = .ok p ∧ (quote ∉ p.field.toList ∧ quote ∉ p.value.toList) ∧
      render p = .ok canonical ∧ parse canonical = .ok p ∧
        printPredicate canonical true = .ok canonical := by
  intro text canonical p
  have hparse : parse text = .ok p := by decide +kernel
  have hrender : render p = .ok canonical := by decide +kernel
  obtain ⟨hquote, canonical', hrender', hcanonical, -, hagain⟩ :=
    (printPredicate_canonical text).1 p hparse
  obtain rfl : canonical = canonical' := Except.ok.inj (hrender.symm.trans hrender')
  exact ⟨hparse, hquote, hrender, hcanonical, hagain⟩

end TriggerCompose.Predicate
