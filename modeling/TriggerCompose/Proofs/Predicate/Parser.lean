import TriggerCompose.Predicate.Parser
import TriggerCompose.Proofs.Outcome
import TriggerCompose.Proofs.Text.Spans
import Mathlib.Data.List.Basic
import Mathlib.Data.List.TakeWhile

/-!
# What the predicate parser reads

Each reader succeeds on exactly the texts of its shape: the bodies say which lexemes
they find and what they leave, and a whole fragment leaves nothing.

## Main statements

* `Predicate.quote_cases`: the texts that a quoted operand tells apart.
* `Predicate.operand_quote`, `Predicate.operand_bare`: the two forms of an operand.
* `Predicate.readEquality_eq_ok_iff`, `Predicate.readNegation_eq_ok_iff`,
  `Predicate.readComparison_eq_ok_iff`: the bodies.
* `Predicate.negationOpen?_eq_some_iff`: the opening of a negation.
* `Predicate.parse_eq_ok_iff`: a whole fragment.
-/

namespace TriggerCompose.Predicate

/-! ### Lexemes -/

theorem isBlank_of_isSpace {c : Char} (hc : isSpace c) : Text.isBlank c := by
  simp only [isSpace, Bool.or_eq_true, beq_iff_eq] at hc
  rcases hc with ((rfl | rfl) | rfl) | rfl <;> decide

theorem isBare_iff {stop : List Char} {c : Char} :
    isBare stop c ↔ Text.isBlank c = false ∧ c ≠ quote ∧ c ∉ stop := by
  simp [isBare, and_assoc]

/-- Nothing is skipped where the text does not start with white space. -/
theorem skipSpace_eq_self {text : List Char} (hhead : text.head?.any isSpace = false) :
    skipSpace text = text :=
  (Text.span_append (List.forall_mem_nil _) hhead).2

theorem skipSpace_append {gap rest : List Char} (hgap : ∀ c ∈ gap, isSpace c)
    (hrest : rest.head?.any isSpace = false) : skipSpace (gap ++ rest) = rest :=
  (Text.span_append hgap hrest).2

/-- A text that starts with no blank starts with no white space. -/
theorem skipSpace_of_isTrimmed {text : List Char} (htext : Text.IsTrimmed text) :
    skipSpace text = text := by
  refine skipSpace_eq_self ((Option.any_eq_false _ _).mpr fun c hc => ?_)
  have hblank := (Option.any_eq_false _ _).mp htext.head c hc
  rw [Bool.eq_false_iff] at hblank ⊢
  exact fun hspace => hblank (isBlank_of_isSpace hspace)

/-- The next quote closes a quoted operand. -/
theorem span_quote {s : List Char} (hs : quote ∉ s) (rest : List Char) :
    (s ++ quote :: rest).takeWhile (· != quote) = s ∧
      (s ++ quote :: rest).dropWhile (· != quote) = quote :: rest :=
  Text.span_append (fun _ hc => bne_iff_ne.mpr fun h => hs (h ▸ hc)) rfl

/-- Without a quote up to the end of the text nothing closes an operand. -/
theorem span_end {s : List Char} (hs : quote ∉ s) :
    s.takeWhile (· != quote) = s ∧ s.dropWhile (· != quote) = [] := by
  have hchars : ∀ c ∈ s, (c != quote) = true := by
    intro c hc
    exact bne_iff_ne.mpr fun h => hs (h ▸ hc)
  have hnil : ([] : List Char).head?.any (· != quote) = false := rfl
  simpa using Text.span_append hchars hnil

/-- A text opens with a quote that another one closes, with a quote that none closes, or
    not with a quote. -/
theorem quote_cases (text : List Char) :
    (∃ s rest, quote ∉ s ∧ text = quote :: (s ++ quote :: rest)) ∨
      (∃ s, quote ∉ s ∧ text = quote :: s) ∨ text.head? ≠ some quote := by
  cases text with
  | nil => exact .inr (.inr (by simp))
  | cons c later =>
    by_cases hc : c = quote
    · subst hc
      by_cases hlater : quote ∈ later
      · obtain ⟨s, rest, rfl, hs⟩ := List.eq_append_cons_of_mem hlater
        exact .inl ⟨s, rest, hs, rfl⟩
      · exact .inr (.inl ⟨later, hlater, rfl⟩)
    · exact .inr (.inr (by simpa using hc))

theorem quoted_closed {s : List Char} (hs : quote ∉ s) (rest : List Char) :
    quoted (quote :: (s ++ quote :: rest)) = .found s rest := by
  obtain ⟨htake, hdrop⟩ := span_quote hs rest
  simp [quoted, htake, hdrop]

theorem quoted_unclosed {s : List Char} (hs : quote ∉ s) : quoted (quote :: s) = .unclosed := by
  simp [quoted, (span_end hs).2]

theorem quoted_absent {text : List Char} (hhead : text.head? ≠ some quote) :
    quoted text = .absent := by
  cases text with
  | nil => rfl
  | cons c later =>
    have hc : c ≠ quote := by simpa using hhead
    simp [quoted, hc]

/-- An operand between quotes, whatever follows the closing one. -/
theorem operand_quote {s : List Char} (hs : quote ∉ s) (stop rest : List Char) :
    operand stop (quote :: (s ++ quote :: rest)) = .found s rest := by
  rw [operand, quoted_closed hs]

/-- A bare operand in front of a character that is not bare, or at the end. -/
theorem operand_bare {stop s rest : List Char} (hne : s ≠ []) (hs : ∀ c ∈ s, isBare stop c)
    (hrest : rest.head?.any (isBare stop) = false) :
    operand stop (s ++ rest) = .found s rest := by
  obtain ⟨htake, hdrop⟩ := Text.span_append hs hrest
  obtain ⟨c, later, rfl⟩ := List.exists_cons_of_ne_nil hne
  have hquote : c ≠ quote := (isBare_iff.mp (hs c List.mem_cons_self)).2.1
  have hquoted : quoted (c :: later ++ rest) = .absent := quoted_absent (by simpa using hquote)
  rw [operand, hquoted]
  simp only [bare, htake, hdrop]

theorem isPrefixOf?_append_self (symbol rest : List Char) :
    symbol.isPrefixOf? (symbol ++ rest) = some rest :=
  List.isPrefixOf?_eq_some_iff_append_eq.mpr rfl

theorem isPrefixOf?_eq_none {symbol text : List Char} (habsent : ¬ symbol <+: text) :
    symbol.isPrefixOf? text = none := by
  cases hprefix : symbol.isPrefixOf? text with
  | none => rfl
  | some rest => exact absurd ⟨rest, List.isPrefixOf?_eq_some_iff_append_eq.mp hprefix⟩ habsent

theorem keyword_append (word rest : List Char) :
    keyword word (word ++ rest) =
      if rest.head?.any continuesWord then .absent else .found () rest := by
  rw [keyword, isPrefixOf?_append_self]

theorem keyword_absent {word text : List Char} (habsent : ¬ word <+: text) :
    keyword word text = .absent := by
  rw [keyword, isPrefixOf?_eq_none habsent]

theorem keyword_eq_found_iff {word text rest : List Char} :
    keyword word text = .found () rest ↔
      text = word ++ rest ∧ rest.head?.any continuesWord = false := by
  constructor
  · intro hfound
    by_cases hprefix : word <+: text
    · obtain ⟨rest', rfl⟩ := hprefix
      rw [keyword_append] at hfound
      split at hfound
      next => cases hfound
      next hends =>
        cases hfound
        exact ⟨rfl, by simpa using hends⟩
    · rw [keyword_absent hprefix] at hfound
      cases hfound
  · rintro ⟨rfl, hends⟩
    rw [keyword_append, hends]
    rfl

/-! ### Bodies -/

theorem readField_eq_ok_iff {stop text field rest : List Char} :
    readField stop text = .ok (field, rest) ↔ operand stop text = .found field rest := by
  unfold readField
  split <;> simp_all

theorem readValue_eq_ok_iff {stop text value rest : List Char} :
    readValue stop text = .ok (value, rest) ↔ operand stop text = .found value rest := by
  unfold readValue
  split <;> simp_all

theorem readSymbol_eq_ok_iff {symbol text rest : List Char} {expectation : Expectation} :
    readSymbol symbol expectation text = .ok rest ↔ text = symbol ++ rest := by
  rw [eq_comm (a := text), ← List.isPrefixOf?_eq_some_iff_append_eq, readSymbol]
  cases List.isPrefixOf? symbol text with
  | none => simp
  | some rest' => simp

/-- An equality is a field, a colon and a value, with white space after each. -/
theorem readEquality_eq_ok_iff {text field value rest : List Char} :
    readEquality text = .ok ((field, value), rest) ↔
      ∃ afterField afterColon afterValue, operand fieldStop text = .found field afterField ∧
        skipSpace afterField = ':' :: afterColon ∧
        operand valueStop (skipSpace afterColon) = .found value afterValue ∧
        rest = skipSpace afterValue := by
  simp only [readEquality, Outcome.bind_eq_ok_iff, Outcome.pure_eq_ok_iff, Prod.exists,
    readField_eq_ok_iff, readValue_eq_ok_iff, readSymbol_eq_ok_iff, Prod.mk.injEq,
    List.singleton_append]
  constructor
  · rintro ⟨_, afterField, hfield, afterColon, hcolon, _, afterValue, hvalue, ⟨rfl, rfl⟩, rfl⟩
    exact ⟨afterField, afterColon, afterValue, hfield, hcolon, hvalue, rfl⟩
  · rintro ⟨afterField, afterColon, afterValue, hfield, hcolon, hvalue, rfl⟩
    exact ⟨_, afterField, hfield, afterColon, hcolon, _, afterValue, hvalue, ⟨rfl, rfl⟩, rfl⟩

/-- A comparison is a field, a symbol and a value, with white space after each. -/
theorem readComparison_eq_ok_iff {comparison : Comparison} {text field value rest : List Char} :
    readComparison comparison text = .ok ((field, value), rest) ↔
      ∃ afterField afterSymbol afterValue, operand compareStop text = .found field afterField ∧
        skipSpace afterField = comparison.symbol ++ afterSymbol ∧
        operand compareStop (skipSpace afterSymbol) = .found value afterValue ∧
        rest = skipSpace afterValue := by
  simp only [readComparison, Outcome.bind_eq_ok_iff, Outcome.pure_eq_ok_iff, Prod.exists,
    readField_eq_ok_iff, readValue_eq_ok_iff, readSymbol_eq_ok_iff, Prod.mk.injEq]
  constructor
  · rintro ⟨_, afterField, hfield, afterSymbol, hsymbol, _, afterValue, hvalue, ⟨rfl, rfl⟩, rfl⟩
    exact ⟨afterField, afterSymbol, afterValue, hfield, hsymbol, hvalue, rfl⟩
  · rintro ⟨afterField, afterSymbol, afterValue, hfield, hsymbol, hvalue, rfl⟩
    exact ⟨_, afterField, hfield, afterSymbol, hsymbol, _, afterValue, hvalue, ⟨rfl, rfl⟩, rfl⟩

/-- White space and an opening parenthesis after `NOT` are no part of a longer word, so
    the keyword needs no condition of its own. -/
theorem negationOpen?_eq_some_iff {text inner : List Char} :
    negationOpen? text = some inner ↔
      ∃ gap, (∀ c ∈ gap, isSpace c) ∧ text = ['N', 'O', 'T'] ++ (gap ++ '(' :: inner) := by
  constructor
  · intro hopen
    unfold negationOpen? at hopen
    split at hopen
    next rest hword =>
      split at hopen
      next inner' hskip =>
        cases hopen
        refine ⟨rest.takeWhile isSpace, fun c hc => List.mem_takeWhile_imp hc, ?_⟩
        rw [← hskip, skipSpace, List.takeWhile_append_dropWhile]
        exact (keyword_eq_found_iff.mp hword).1
      next => cases hopen
    next => cases hopen
  · rintro ⟨gap, hgap, rfl⟩
    have hends : (gap ++ '(' :: inner).head?.any continuesWord = false := by
      cases gap with
      | nil => rfl
      | cons c gap =>
        have hc : isSpace c := hgap c List.mem_cons_self
        simp only [isSpace, Bool.or_eq_true, beq_iff_eq] at hc
        rcases hc with ((rfl | rfl) | rfl) | rfl <;> rfl
    have hword : keyword ['N', 'O', 'T'] (['N', 'O', 'T'] ++ (gap ++ '(' :: inner)) =
        .found () (gap ++ '(' :: inner) :=
      keyword_eq_found_iff.mpr ⟨rfl, hends⟩
    have hskip : skipSpace (gap ++ '(' :: inner) = '(' :: inner :=
      skipSpace_append hgap rfl
    rw [negationOpen?, hword]
    simp only [hskip]

/-- A negation is an equality in parentheses after its opening. -/
theorem readNegation_eq_ok_iff {text rest : List Char} {pair : List Char × List Char} :
    readNegation text = .ok (pair, rest) ↔
      ∃ inner afterClose, negationOpen? text = some inner ∧
        readEquality (skipSpace inner) = .ok (pair, ')' :: afterClose) ∧
        rest = skipSpace afterClose := by
  unfold readNegation
  cases hopen : negationOpen? text with
  | none => simp
  | some inner =>
    simp only [Outcome.bind_eq_ok_iff, Outcome.pure_eq_ok_iff, Prod.exists, readSymbol_eq_ok_iff,
      Prod.mk.injEq, List.singleton_append, Option.some.injEq]
    constructor
    · rintro ⟨_, _, _, hpair, afterClose, rfl, ⟨rfl, rfl⟩, rfl⟩
      exact ⟨inner, afterClose, rfl, hpair, rfl⟩
    · rintro ⟨_, afterClose, rfl, hpair, rfl⟩
      exact ⟨_, _, _, hpair, afterClose, rfl, rfl, rfl⟩

/-! ### Fragments -/

theorem readAll_eq_ok_iff {operator : Operator} {text : List Char}
    {pair : List Char × List Char} :
    readAll operator text = .ok pair ↔ readOperands operator text = .ok (pair, []) := by
  rw [readAll, Outcome.bind_eq_ok_iff]
  constructor
  · rintro ⟨⟨pair', rest⟩, hread, hend⟩
    cases rest with
    | nil => cases hend; exact hread
    | cons c rest => cases hend
  · intro hread
    exact ⟨(pair, []), hread, rfl⟩

/-- A fragment is a predicate when the operands of its operator use it up. -/
theorem parse_eq_ok_iff {text : String} {p : Predicate} :
    parse text = .ok p ↔ p.operator = Operator.detect text.toList ∧
      readOperands p.operator (Text.trim text.toList) =
        .ok ((p.field.toList, p.value.toList), []) := by
  rw [← readAll_eq_ok_iff, parse]
  constructor
  · intro hparse
    split at hparse
    next field value hread =>
      cases hparse
      exact ⟨rfl, by simpa using hread⟩
    next => cases hparse
  · rintro ⟨hoperator, hread⟩
    rw [← hoperator, hread]
    simp

end TriggerCompose.Predicate
