import TriggerCompose.Proofs.Predicate.Parser

/-!
# The grammar of predicate fragments

What a fragment of each operator may look like, written down apart from the parser. A
derivation holds every piece of a fragment, white space included, so the text of a
derivation is the fragment. The parser accepts exactly the texts of derivations, and a
text has at most one.

## Main definitions

* `Predicate.Gap`, `Predicate.Lexeme`: white space, and an operand as it is written.
* `Predicate.Derivation`: the ways to write the operands of an operator.

## Main statements

* `Predicate.Lexeme.append_inj`, `Predicate.Gap.append_inj`: where a piece ends.
* `Predicate.Derivation.text_injective`: a text has at most one derivation.
* `Predicate.readOperands_eq_ok_iff`: which trimmed texts are read.
* `Predicate.parse_eq_ok_iff_derivation`: which fragments are predicates.
-/

namespace TriggerCompose.Predicate

/-! ### Derivations -/

/-- White space between lexemes; there may be none. -/
structure Gap where
  chars : List Char
  space : ∀ c ∈ chars, c ∈ [' ', '\t', '\r', '\n']

/-- An operand as a fragment writes it: between quotes, or a run of characters at none of
    which it has to stop. -/
inductive Lexeme (stop : List Char) where
  | quoted (content : List Char) (closed : quote ∉ content)
  | bare (run : List Char) (ne : run ≠ [])
      (chars : ∀ c ∈ run, Text.isBlank c = false ∧ c ≠ quote ∧ c ∉ stop)

/-- The text of an operand, with its quotes. -/
def Lexeme.text {stop : List Char} : Lexeme stop → List Char
  | quoted content _ => quote :: (content ++ [quote])
  | bare run _ _ => run

/-- What an operand says. -/
def Lexeme.operand {stop : List Char} : Lexeme stop → List Char
  | quoted content _ => content
  | bare run _ _ => run

/-- An equality as a fragment writes it. -/
structure Equation where
  field : Lexeme fieldStop
  beforeColon : Gap
  afterColon : Gap
  value : Lexeme valueStop

def Equation.text (e : Equation) : List Char :=
  e.field.text ++ (e.beforeColon.chars ++ ':' :: (e.afterColon.chars ++ e.value.text))

def Equation.operands (e : Equation) : List Char × List Char :=
  (e.field.operand, e.value.operand)

/-- The ways to write the operands of an operator. -/
inductive Derivation : Operator → Type where
  | is (equation : Equation) : Derivation .is
  | isNot (beforeOpen afterOpen : Gap) (equation : Equation) (beforeClose : Gap) :
      Derivation .isNot
  | compare {comparison : Comparison} (field : Lexeme compareStop) (beforeSymbol afterSymbol : Gap)
      (value : Lexeme compareStop) : Derivation (.compare comparison)

namespace Derivation

/-- The fragment that a derivation stands for. -/
def text {operator : Operator} : Derivation operator → List Char
  | is equation => equation.text
  | isNot beforeOpen afterOpen equation beforeClose =>
    ['N', 'O', 'T'] ++ (beforeOpen.chars ++ '(' ::
      (afterOpen.chars ++ (equation.text ++ (beforeClose.chars ++ [')']))))
  | @compare comparison field beforeSymbol afterSymbol value =>
    field.text ++ (beforeSymbol.chars ++ (comparison.symbol ++ (afterSymbol.chars ++ value.text)))

/-- The field and the value of a derivation. -/
def operands {operator : Operator} : Derivation operator → List Char × List Char
  | is equation => equation.operands
  | isNot _ _ equation _ => equation.operands
  | compare field _ _ value => (field.operand, value.operand)

end Derivation

/-! ### Where a piece ends -/

theorem isSpace_iff {c : Char} : isSpace c ↔ c ∈ [' ', '\t', '\r', '\n'] := by
  simp [isSpace, or_assoc]

theorem Gap.isSpace_of_mem {g : Gap} {c : Char} (hc : c ∈ g.chars) : isSpace c :=
  isSpace_iff.mpr (g.space c hc)

/-- White space in front of a text ends a run wherever the text itself does. -/
theorem Gap.head?_append {p : Char → Bool} (hspace : ∀ c, isSpace c → p c = false) (g : Gap)
    {rest : List Char} (hrest : rest.head?.any p = false) :
    (g.chars ++ rest).head?.any p = false := by
  cases hchars : g.chars with
  | nil => exact hrest
  | cons c later =>
    have hc : c ∈ g.chars := by simp [hchars]
    simpa using hspace c (isSpace_of_mem hc)

theorem isBare_of_isSpace (stop : List Char) {c : Char} (hc : isSpace c) :
    isBare stop c = false := by
  simp [isBare, isBlank_of_isSpace hc]

theorem Gap.skipSpace_append (g : Gap) {rest : List Char} (hrest : rest.head?.any isSpace = false) :
    skipSpace (g.chars ++ rest) = rest :=
  Predicate.skipSpace_append (fun _ hc => isSpace_of_mem hc) hrest

theorem Gap.append_inj {g g' : Gap} {rest rest' : List Char}
    (htext : g.chars ++ rest = g'.chars ++ rest') (hrest : rest.head?.any isSpace = false)
    (hrest' : rest'.head?.any isSpace = false) : g = g' ∧ rest = rest' := by
  have hsame : rest = rest' := by
    rw [← g.skipSpace_append hrest, htext, g'.skipSpace_append hrest']
  subst hsame
  have hchars : g.chars = g'.chars := List.append_cancel_right htext
  cases g
  cases g'
  simp_all

namespace Lexeme

variable {stop : List Char}

/-- A lexeme is read where it stands, if what follows could not belong to it. -/
theorem operand_text (l : Lexeme stop) {rest : List Char}
    (hrest : rest.head?.any (isBare stop) = false) :
    Predicate.operand stop (l.text ++ rest) = .found l.operand rest := by
  cases l with
  | quoted content closed =>
    have htext : (quoted content closed : Lexeme stop).text ++ rest =
        quote :: (content ++ quote :: rest) := by
      simp [text]
    rw [htext]
    exact operand_quote closed stop rest
  | bare run ne chars => exact operand_bare ne (fun c hc => isBare_iff.mpr (chars c hc)) hrest

theorem text_injective {l l' : Lexeme stop} (htext : l.text = l'.text) : l = l' := by
  -- A bare operand holds no quote, so it is no quoted one.
  have hne : ∀ {content run : List Char},
      (∀ c ∈ run, Text.isBlank c = false ∧ c ≠ quote ∧ c ∉ stop) →
        quote :: (content ++ [quote]) ≠ run := by
    intro content run hrun hquote
    exact (hrun quote (by simp [← hquote])).2.1 rfl
  cases l with
  | quoted content closed =>
    cases l' with
    | quoted content' closed' => simpa [text] using htext
    | bare run ne chars => exact absurd htext (hne chars)
  | bare run ne chars =>
    cases l' with
    | quoted content' closed' => exact absurd htext.symm (hne chars)
    | bare run' ne' chars' => simpa [text] using htext

theorem append_inj {l l' : Lexeme stop} {rest rest' : List Char}
    (htext : l.text ++ rest = l'.text ++ rest') (hrest : rest.head?.any (isBare stop) = false)
    (hrest' : rest'.head?.any (isBare stop) = false) : l = l' ∧ rest = rest' := by
  have hread := l.operand_text hrest
  rw [htext, l'.operand_text hrest', Lexed.found.injEq] at hread
  obtain ⟨-, rfl⟩ := hread
  exact ⟨text_injective (List.append_cancel_right htext), rfl⟩

/-- No operand starts with white space. -/
theorem head?_append (l : Lexeme stop) (rest : List Char) :
    (l.text ++ rest).head?.any isSpace = false := by
  cases l with
  | quoted content closed => rfl
  | bare run ne chars =>
    obtain ⟨c, later, rfl⟩ := List.exists_cons_of_ne_nil ne
    have hblank := (chars c List.mem_cons_self).1
    rw [Bool.eq_false_iff] at hblank
    simpa [text] using fun hspace => hblank (isBlank_of_isSpace hspace)

theorem head?_text (l : Lexeme stop) : l.text.head?.any isSpace = false := by
  simpa using l.head?_append []

end Lexeme

/-! ### What is read -/

theorem shape_of_quoted {text s rest : List Char} (hread : quoted text = .found s rest) :
    quote ∉ s ∧ text = quote :: (s ++ quote :: rest) := by
  rcases quote_cases text with ⟨content, later, hcontent, rfl⟩ | ⟨body, hbody, rfl⟩ | hhead
  · rw [quoted_closed hcontent] at hread
    cases hread
    exact ⟨hcontent, rfl⟩
  · rw [quoted_unclosed hbody] at hread
    cases hread
  · rw [quoted_absent hhead] at hread
    cases hread

theorem shape_of_bare {stop text s rest : List Char} (hread : bare stop text = .found s rest) :
    s ≠ [] ∧ (∀ c ∈ s, isBare stop c) ∧ text = s ++ rest := by
  unfold bare at hread
  split at hread
  next => cases hread
  next hne =>
    cases hread
    exact ⟨hne, fun _ hc => List.mem_takeWhile_imp hc, List.takeWhile_append_dropWhile.symm⟩

/-- What the lexer finds stands in the text as a lexeme. -/
theorem exists_lexeme_of_operand {stop text s rest : List Char}
    (hread : operand stop text = .found s rest) :
    ∃ l : Lexeme stop, l.operand = s ∧ text = l.text ++ rest := by
  unfold operand at hread
  split at hread
  next =>
    obtain ⟨hne, hchars, rfl⟩ := shape_of_bare hread
    exact ⟨.bare s hne fun c hc => isBare_iff.mp (hchars c hc), rfl, rfl⟩
  next =>
    obtain ⟨hclosed, rfl⟩ := shape_of_quoted hread
    exact ⟨.quoted s hclosed, rfl, by simp [Lexeme.text]⟩

/-- White space that is skipped stands in the text as a gap. -/
theorem exists_gap_of_skipSpace (text : List Char) : ∃ g : Gap, text = g.chars ++ skipSpace text :=
  ⟨⟨text.takeWhile isSpace, fun _ hc => isSpace_iff.mp (List.mem_takeWhile_imp hc)⟩,
    List.takeWhile_append_dropWhile.symm⟩

/-! ### Equations -/

namespace Equation

theorem text_append (e : Equation) (rest : List Char) :
    e.text ++ rest = e.field.text ++ (e.beforeColon.chars ++ ':' ::
      (e.afterColon.chars ++ (e.value.text ++ rest))) := by
  simp [text]

/-- The field of an equation ends at its colon, whatever white space stands between. -/
theorem head?_afterField (e : Equation) (later : List Char) :
    (e.beforeColon.chars ++ ':' :: later).head?.any (isBare fieldStop) = false :=
  e.beforeColon.head?_append (fun _ hc => isBare_of_isSpace _ hc) rfl

theorem readEquality_text (e : Equation) {rest : List Char}
    (hrest : rest.head?.any (isBare valueStop) = false) :
    readEquality (e.text ++ rest) = .ok (e.operands, skipSpace rest) := by
  rw [text_append, operands, readEquality_eq_ok_iff]
  refine ⟨_, _, rest, e.field.operand_text (e.head?_afterField _),
    e.beforeColon.skipSpace_append rfl, ?_, rfl⟩
  rw [e.afterColon.skipSpace_append (e.value.head?_append rest)]
  exact e.value.operand_text hrest

theorem append_inj {e e' : Equation} {rest rest' : List Char}
    (htext : e.text ++ rest = e'.text ++ rest')
    (hrest : rest.head?.any (isBare valueStop) = false)
    (hrest' : rest'.head?.any (isBare valueStop) = false) : e = e' ∧ rest = rest' := by
  rw [text_append, text_append] at htext
  obtain ⟨hfield, htext⟩ :=
    Lexeme.append_inj htext (e.head?_afterField _) (e'.head?_afterField _)
  obtain ⟨hbefore, htext⟩ := Gap.append_inj htext rfl rfl
  rw [List.cons.injEq] at htext
  obtain ⟨hafter, htext⟩ :=
    Gap.append_inj htext.2 (e.value.head?_append rest) (e'.value.head?_append rest')
  obtain ⟨hvalue, rfl⟩ := Lexeme.append_inj htext hrest hrest'
  cases e
  cases e'
  simp_all

theorem head?_append (e : Equation) (rest : List Char) :
    (e.text ++ rest).head?.any isSpace = false := by
  rw [text_append]
  exact e.field.head?_append _

end Equation

/-- An equality that is read stands in the text as an equation, with the white space that
    was skipped after it. -/
theorem exists_equation_of_readEquality {text rest : List Char} {pair : List Char × List Char}
    (hread : readEquality text = .ok (pair, rest)) :
    ∃ (e : Equation) (g : Gap), e.operands = pair ∧ text = e.text ++ (g.chars ++ rest) := by
  obtain ⟨afterField, afterColon, afterValue, hfield, hcolon, hvalue, rfl⟩ :=
    readEquality_eq_ok_iff.mp hread
  obtain ⟨field, hfieldText, rfl⟩ := exists_lexeme_of_operand hfield
  obtain ⟨before, hbefore⟩ := exists_gap_of_skipSpace afterField
  obtain ⟨after, hafter⟩ := exists_gap_of_skipSpace afterColon
  obtain ⟨value, hvalueText, hpair⟩ := exists_lexeme_of_operand hvalue
  obtain ⟨last, hlast⟩ := exists_gap_of_skipSpace afterValue
  refine ⟨⟨field, before, after, value⟩, last, Prod.ext hfieldText hvalueText, ?_⟩
  rw [← hlast, Equation.text_append, ← hpair, ← hafter, ← hcolon, ← hbefore]

/-! ### Fragments -/

theorem Comparison.head?_symbol_append {p : Char → Bool} (hless : p '<' = false)
    (hgreater : p '>' = false) (comparison : Comparison) (rest : List Char) :
    (comparison.symbol ++ rest).head?.any p = false := by
  cases comparison <;> assumption

namespace Derivation

/-- A text has at most one derivation: every piece ends where the next one has to start. -/
theorem text_injective {operator : Operator} {d d' : Derivation operator}
    (htext : d.text = d'.text) : d = d' := by
  cases d with
  | is e =>
    cases d' with
    | is e' =>
      have hend : e.text ++ [] = e'.text ++ [] := congrArg (· ++ []) htext
      obtain ⟨rfl, -⟩ := Equation.append_inj hend rfl rfl
      rfl
  | isNot beforeOpen afterOpen e beforeClose =>
    cases d' with
    | isNot beforeOpen' afterOpen' e' beforeClose' =>
      have hclose : ∀ g : Gap, (g.chars ++ [')']).head?.any (isBare valueStop) = false :=
        fun g => g.head?_append (fun _ hc => isBare_of_isSpace _ hc) rfl
      obtain ⟨rfl, hopen⟩ := Gap.append_inj (List.append_cancel_left htext) rfl rfl
      obtain ⟨rfl, hequation⟩ :=
        Gap.append_inj (List.cons.inj hopen).2 (e.head?_append _) (e'.head?_append _)
      obtain ⟨rfl, hend⟩ := Equation.append_inj hequation (hclose _) (hclose _)
      obtain ⟨rfl, -⟩ := Gap.append_inj hend rfl rfl
      rfl
  | @compare comparison field beforeSymbol afterSymbol value =>
    cases d' with
    | compare field' beforeSymbol' afterSymbol' value' =>
      have hsymbol : ∀ later : List Char, (comparison.symbol ++ later).head?.any isSpace = false :=
        comparison.head?_symbol_append rfl rfl
      have hfield : ∀ (g : Gap) (later : List Char),
          (g.chars ++ (comparison.symbol ++ later)).head?.any (isBare compareStop) = false :=
        fun g later => g.head?_append (fun _ hc => isBare_of_isSpace _ hc)
          (comparison.head?_symbol_append rfl rfl later)
      obtain ⟨rfl, hgap⟩ := Lexeme.append_inj htext (hfield _ _) (hfield _ _)
      obtain ⟨rfl, hlater⟩ := Gap.append_inj hgap (hsymbol _) (hsymbol _)
      obtain ⟨rfl, hvalue⟩ := Gap.append_inj (List.append_cancel_left hlater) value.head?_text
        value'.head?_text
      rw [Lexeme.text_injective hvalue]

/-- The parser reads the text of a derivation to its end. -/
theorem readOperands_text {operator : Operator} (d : Derivation operator) :
    readOperands operator d.text = .ok (d.operands, []) := by
  cases d with
  | is e =>
    have hread : readEquality (e.text ++ []) = .ok (e.operands, []) := e.readEquality_text rfl
    rwa [List.append_nil] at hread
  | isNot beforeOpen afterOpen e beforeClose =>
    refine readNegation_eq_ok_iff.mpr ⟨_, [], negationOpen?_eq_some_iff.mpr
      ⟨beforeOpen.chars, fun _ hc => Gap.isSpace_of_mem hc, rfl⟩, ?_, rfl⟩
    have hclose : (beforeClose.chars ++ [')']).head?.any (isBare valueStop) = false :=
      beforeClose.head?_append (fun _ hc => isBare_of_isSpace _ hc) rfl
    rw [afterOpen.skipSpace_append (e.head?_append _), e.readEquality_text hclose,
      beforeClose.skipSpace_append rfl]
    rfl
  | @compare comparison field beforeSymbol afterSymbol value =>
    refine readComparison_eq_ok_iff.mpr ⟨_, afterSymbol.chars ++ value.text, [],
      field.operand_text ?_, beforeSymbol.skipSpace_append ?_, ?_, rfl⟩
    · exact beforeSymbol.head?_append (fun _ hc => isBare_of_isSpace _ hc)
        (comparison.head?_symbol_append rfl rfl _)
    · exact comparison.head?_symbol_append rfl rfl _
    · rw [afterSymbol.skipSpace_append value.head?_text, ← List.append_nil value.text]
      exact value.operand_text rfl

end Derivation

/-- White space at the end of a text without blank ends is none. -/
theorem Gap.eq_nil_of_isTrimmed {g : Gap} {before : List Char}
    (htext : Text.IsTrimmed (before ++ g.chars)) : g.chars = [] := by
  rcases List.eq_nil_or_concat g.chars with hnil | ⟨chars, c, hchars⟩
  · exact hnil
  · have hc : c ∈ g.chars := by simp [hchars]
    have hlast := htext.last
    simp [hchars, isBlank_of_isSpace (isSpace_of_mem hc)] at hlast

/-- Where a trimmed text is read to its end, it is the text of a derivation. -/
theorem exists_derivation_of_readOperands {operator : Operator} {text : List Char}
    {pair : List Char × List Char} (htext : Text.IsTrimmed text)
    (hread : readOperands operator text = .ok (pair, [])) :
    ∃ d : Derivation operator, d.text = text ∧ d.operands = pair := by
  cases operator with
  | is =>
    obtain ⟨e, last, hpair, rfl⟩ := exists_equation_of_readEquality hread
    rw [List.append_nil] at htext
    refine ⟨.is e, ?_, hpair⟩
    rw [Gap.eq_nil_of_isTrimmed htext]
    simp [Derivation.text]
  | isNot =>
    obtain ⟨inner, afterClose, hopen, hequation, hend⟩ := readNegation_eq_ok_iff.mp hread
    obtain ⟨beforeOpen, hbeforeOpen, rfl⟩ := negationOpen?_eq_some_iff.mp hopen
    obtain ⟨afterOpen, hafterOpen⟩ := exists_gap_of_skipSpace inner
    obtain ⟨e, beforeClose, hpair, hinner⟩ := exists_equation_of_readEquality hequation
    obtain ⟨last, hlast⟩ := exists_gap_of_skipSpace afterClose
    refine ⟨.isNot ⟨beforeOpen, fun c hc => isSpace_iff.mp (hbeforeOpen c hc)⟩ afterOpen e
      beforeClose, ?_, hpair⟩
    rw [← hend, List.append_nil] at hlast
    rw [hafterOpen, hinner, hlast] at htext ⊢
    have htrimmed : Text.IsTrimmed (['N', 'O', 'T'] ++ (beforeOpen ++ '(' ::
        (afterOpen.chars ++ (e.text ++ (beforeClose.chars ++ [')'])))) ++ last.chars) := by
      simpa using htext
    rw [Gap.eq_nil_of_isTrimmed htrimmed]
    rfl
  | compare comparison =>
    obtain ⟨afterField, afterSymbol, afterValue, hfield, hsymbol, hvalue, hend⟩ :=
      readComparison_eq_ok_iff.mp hread
    obtain ⟨field, hfieldText, rfl⟩ := exists_lexeme_of_operand hfield
    obtain ⟨before, hbefore⟩ := exists_gap_of_skipSpace afterField
    obtain ⟨after, hafter⟩ := exists_gap_of_skipSpace afterSymbol
    obtain ⟨value, hvalueText, hrest⟩ := exists_lexeme_of_operand hvalue
    obtain ⟨last, hlast⟩ := exists_gap_of_skipSpace afterValue
    refine ⟨.compare field before after value, ?_, Prod.ext hfieldText hvalueText⟩
    rw [← hend, List.append_nil] at hlast
    rw [hbefore, hsymbol, hafter, hrest, hlast] at htext ⊢
    have htrimmed : Text.IsTrimmed (field.text ++ (before.chars ++
        (comparison.symbol ++ (after.chars ++ value.text))) ++ last.chars) := by
      simpa using htext
    rw [Gap.eq_nil_of_isTrimmed htrimmed, List.append_nil]
    rfl

/-- A trimmed text is read as the operands of exactly the derivations that it is the text
    of. -/
theorem readOperands_eq_ok_iff {operator : Operator} {text : List Char}
    {pair : List Char × List Char} (htext : Text.IsTrimmed text) :
    readOperands operator text = .ok (pair, []) ↔
      ∃ d : Derivation operator, d.text = text ∧ d.operands = pair := by
  constructor
  · exact exists_derivation_of_readOperands htext
  · rintro ⟨d, rfl, rfl⟩
    exact d.readOperands_text

/-- A fragment is a predicate just if its trimmed text has a derivation for the operator
    that was detected, and then its operands are those of the one derivation that there is.
    Every other fragment fails as a malformed predicate. -/
theorem parse_eq_ok_iff_derivation (text : String) :
    (∀ p : Predicate, parse text = .ok p ↔ p.operator = Operator.detect text.toList ∧
      ∃ d : Derivation p.operator, d.text = Text.trim text.toList ∧
        d.operands = (p.field.toList, p.value.toList)) ∧
      (∀ d d' : Derivation (Operator.detect text.toList),
        d.text = Text.trim text.toList → d'.text = Text.trim text.toList → d = d') ∧
      ((∃ e, parse text = .error e ∧ e.failure.reason = .predicate) ↔
        ¬ ∃ d : Derivation (Operator.detect text.toList), d.text = Text.trim text.toList) := by
  have hok : ∀ p : Predicate, parse text = .ok p ↔ p.operator = Operator.detect text.toList ∧
      ∃ d : Derivation p.operator, d.text = Text.trim text.toList ∧
        d.operands = (p.field.toList, p.value.toList) := by
    intro p
    rw [parse_eq_ok_iff, readOperands_eq_ok_iff (Text.isTrimmed_trim text.toList)]
  refine ⟨hok, fun d d' hd hd' => Derivation.text_injective (hd.trans hd'.symm), ?_⟩
  constructor
  · rintro ⟨e, herror, -⟩ ⟨d, hd⟩
    have hparse := (hok ⟨String.ofList d.operands.1, Operator.detect text.toList,
      String.ofList d.operands.2⟩).mpr ⟨rfl, d, hd, by simp⟩
    rw [herror] at hparse
    cases hparse
  · intro hnone
    cases hparse : parse text with
    | error e => exact ⟨e, rfl, rfl⟩
    | ok p =>
      obtain ⟨hoperator, d, hd, -⟩ := (hok p).mp hparse
      rw [← hoperator] at hnone
      exact absurd ⟨d, hd⟩ hnone

end TriggerCompose.Predicate
