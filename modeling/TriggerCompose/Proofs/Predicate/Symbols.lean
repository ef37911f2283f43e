import TriggerCompose.Proofs.Predicate.Detection
import TriggerCompose.Proofs.Text.Blanks

/-!
# Symbols outside quotes

Detection looks for symbols in a copy of a fragment without its quoted spans. What it finds
there are the symbols that stand in the fragment itself, in one piece and outside of every
span. A span starts where the quotes before it are paired, so a symbol stands outside if the
quotes before it are even in number, or if no quote after it could close a span.

## Main definitions

* `Predicate.QuotedSpan`: two paired quotes of a text and what they enclose.
* `Predicate.StandsOutside`: a symbol stands in a text outside of the spans.
* `Predicate.OpensNegation`: a text starts like a negation.
* `Predicate.Detected`: what the operator of a fragment is.

## Main statements

* `Predicate.standsOutside_iff_count`: outside, told by the quotes before and after.
* `Predicate.standsOutside_iff_of_span`: a symbol stands before a span or after it.
* `Predicate.occursIn_withoutQuoted_iff`: what the copy without spans shows.
* `Predicate.detected_detect`: the operator of a fragment.
-/

namespace TriggerCompose.Predicate

/-! ### Spans -/

/-- Two paired quotes of a text with what is between them, before them and after them.
    Quotes are paired from the left, so those before the opening one are paired already. -/
structure QuotedSpan (text : List Char) where
  before : List Char
  content : List Char
  after : List Char
  text_eq : text = before ++ quote :: (content ++ quote :: after)
  closed : quote ∉ content
  paired : before.count quote % 2 = 0

/-- The text with something else between the two quotes. -/
def QuotedSpan.refilled {text : List Char} (span : QuotedSpan text) (content : List Char) :
    List Char :=
  span.before ++ quote :: (content ++ quote :: span.after)

/-- A symbol stands in a text, in one piece that every span leaves on one side of it. -/
def StandsOutside (symbol text : List Char) : Prop :=
  ∃ before after, text = before ++ (symbol ++ after) ∧
    ∀ span : QuotedSpan text, before ++ symbol <+: span.before ∨ symbol ++ after <:+ span.after

/-- After an odd number of quotes, the last of them is one that opens. -/
theorem exists_open_quote {before : List Char} (hodd : before.count quote % 2 = 1) :
    ∃ earlier inside, before = earlier ++ quote :: inside ∧ quote ∉ inside ∧
      earlier.count quote % 2 = 0 := by
  have hmem : quote ∈ before.reverse := by
    rw [List.mem_reverse, ← List.count_pos_iff]
    omega
  obtain ⟨inside, earlier, hreverse, hinside⟩ := List.eq_append_cons_of_mem hmem
  have hbefore : before = earlier.reverse ++ quote :: inside.reverse := by
    rw [← List.reverse_reverse before, hreverse]
    simp
  have hnone : inside.reverse.count quote = 0 := by
    rw [List.count_eq_zero, List.mem_reverse]
    exact hinside
  refine ⟨earlier.reverse, inside.reverse, hbefore, by simpa using hinside, ?_⟩
  rw [hbefore, List.count_append, List.count_cons_self, hnone] at hodd
  omega

variable {symbol : List Char}

/-- Outside means that the quotes before are paired, or that none after is left to pair
    the last of them. -/
theorem forall_span_iff {before after : List Char} (hsymbol : quote ∉ symbol) :
    (∀ span : QuotedSpan (before ++ (symbol ++ after)),
        before ++ symbol <+: span.before ∨ symbol ++ after <:+ span.after) ↔
      before.count quote % 2 = 0 ∨ quote ∉ after := by
  constructor
  · intro houtside
    by_contra hinside
    rw [not_or, not_not] at hinside
    -- The span around the symbol leaves it on neither side.
    obtain ⟨earlier, opened, rfl, hopened, hpaired⟩ :=
      exists_open_quote (Nat.mod_two_ne_zero.mp hinside.1)
    obtain ⟨closing, later, rfl, hclosing⟩ := List.eq_append_cons_of_mem hinside.2
    have hcontent : quote ∉ opened ++ (symbol ++ closing) := by
      simp only [List.mem_append, not_or]
      exact ⟨hopened, hsymbol, hclosing⟩
    rcases houtside ⟨earlier, opened ++ (symbol ++ closing), later, by simp, hcontent, hpaired⟩
      with hbefore | hafter
    · have hlength := hbefore.length_le
      simp only [List.length_append, List.length_cons] at hlength
      omega
    · have hlength := hafter.length_le
      simp only [List.length_append, List.length_cons] at hlength
      omega
  · intro hcount span
    rcases Text.append_append_eq_append_cons hsymbol span.text_eq with
      ⟨later, hbefore, -⟩ | ⟨earlier, hbefore, hrest⟩
    · left
      rw [hbefore, ← List.append_assoc]
      exact List.prefix_append _ _
    · rcases Text.append_append_eq_append_cons hsymbol hrest.symm with
        ⟨later, hcontent, hlater⟩ | ⟨earlier', -, hafter⟩
      · -- Between the quotes of the span, one quote before is not paired.
        have hnone : earlier.count quote = 0 := by
          rw [List.count_eq_zero]
          intro hmem
          exact span.closed (by simp [hcontent, hmem])
        have hpaired := span.paired
        rw [hbefore, List.count_append, List.count_cons_self, hnone] at hcount
        rcases hcount with heven | hclosed
        · omega
        · exact absurd (by simp [hlater]) hclosed
      · right
        rw [hafter]
        exact List.suffix_append _ _

theorem standsOutside_iff_count {text : List Char} (hsymbol : quote ∉ symbol) :
    StandsOutside symbol text ↔ ∃ before after, text = before ++ (symbol ++ after) ∧
      (before.count quote % 2 = 0 ∨ quote ∉ after) := by
  constructor
  · rintro ⟨before, after, rfl, houtside⟩
    exact ⟨before, after, rfl, (forall_span_iff hsymbol).mp houtside⟩
  · rintro ⟨before, after, rfl, hcount⟩
    exact ⟨before, after, rfl, (forall_span_iff hsymbol).mpr hcount⟩

/-- No symbol is made of what stands on the two sides of a span, and none is found in it. -/
theorem standsOutside_iff_of_span {text : List Char} (hsymbol : quote ∉ symbol)
    (span : QuotedSpan text) :
    StandsOutside symbol text ↔
      StandsOutside symbol span.before ∨ StandsOutside symbol span.after := by
  obtain ⟨before, content, after, rfl, hclosed, hpaired⟩ := span
  have hcontent : content.count quote = 0 := List.count_eq_zero.mpr hclosed
  simp only [standsOutside_iff_count hsymbol]
  constructor
  · rintro ⟨left, right, htext, hcount⟩
    rcases Text.append_append_eq_append_cons hsymbol htext.symm with
      ⟨later, rfl, rfl⟩ | ⟨earlier, rfl, hrest⟩
    · exact .inl ⟨left, later, rfl, .inl (hcount.resolve_right (by simp))⟩
    · rcases Text.append_append_eq_append_cons hsymbol hrest.symm with
        ⟨later, rfl, rfl⟩ | ⟨earlier', rfl, rfl⟩
      · have heven := hcount.resolve_right (by simp)
        simp only [List.count_append, List.count_cons_self] at heven hcontent
        omega
      · refine .inr ⟨earlier', right, rfl, hcount.imp_left fun heven => ?_⟩
        simp only [List.count_append, List.count_cons_self] at heven
        omega
  · rintro (⟨left, right, rfl, hcount⟩ | ⟨left, right, rfl, hcount⟩)
    · refine ⟨left, right ++ quote :: (content ++ quote :: after), by simp, .inl ?_⟩
      have hnone : symbol.count quote = 0 := List.count_eq_zero.mpr hsymbol
      simp only [List.count_append, hnone] at hpaired
      rcases hcount with heven | hlast
      · exact heven
      · rw [List.count_eq_zero.mpr hlast] at hpaired
        omega
    · refine ⟨before ++ quote :: (content ++ quote :: left), right, by simp,
        hcount.imp_left fun heven => ?_⟩
      simp only [List.count_append, List.count_cons_self]
      omega

/-! ### The copy without spans -/

theorem standsOutside_cons_iff {c : Char} {rest : List Char} (hsymbol : quote ∉ symbol)
    (hc : c ≠ quote) :
    StandsOutside symbol (c :: rest) ↔ symbol <+: c :: rest ∨ StandsOutside symbol rest := by
  simp only [standsOutside_iff_count hsymbol]
  constructor
  · rintro ⟨before, after, htext, hcount⟩
    cases before with
    | nil => exact .inl ⟨after, htext.symm⟩
    | cons d before =>
      obtain ⟨rfl, hrest⟩ := List.cons.inj htext
      rw [List.count_cons_of_ne hc] at hcount
      exact .inr ⟨before, after, hrest, hcount⟩
  · rintro (⟨after, htext⟩ | ⟨before, after, rfl, hcount⟩)
    · exact ⟨[], after, htext.symm, .inl rfl⟩
    · refine ⟨c :: before, after, rfl, ?_⟩
      rwa [List.count_cons_of_ne hc]

/-- A text with one quote in front and no other has no span. -/
theorem standsOutside_quote_iff {rest : List Char} (hsymbol : quote ∉ symbol)
    (hrest : quote ∉ rest) :
    StandsOutside symbol (quote :: rest) ↔ symbol <:+: quote :: rest := by
  rw [standsOutside_iff_count hsymbol]
  constructor
  · rintro ⟨before, after, htext, -⟩
    exact ⟨before, after, by rw [htext, List.append_assoc]⟩
  · rintro ⟨before, after, htext⟩
    rw [List.append_assoc] at htext
    refine ⟨before, after, htext.symm, ?_⟩
    have hcount := congrArg (List.count quote) htext
    rw [List.count_append, List.count_append, List.count_cons_self,
      List.count_eq_zero.mpr hrest] at hcount
    by_cases hafter : quote ∈ after
    · left
      have hpos := List.count_pos_iff.mpr hafter
      omega
    · exact .inr hafter

/-- The copy differs from the text where a span starts, and no symbol starts like that. -/
theorem prefix_withoutQuoted_iff (hsymbol : quote ∉ symbol) (hspace : ' ' ∉ symbol)
    (text : List Char) : symbol <+: withoutQuoted text ↔ symbol <+: text := by
  induction symbol generalizing text with
  | nil => simp
  | cons c symbol ih =>
    rw [List.mem_cons, not_or] at hsymbol hspace
    cases text with
    | nil => rw [withoutQuoted]
    | cons d rest =>
      rw [withoutQuoted]
      by_cases hd : d = quote
      · rw [if_pos (beq_iff_eq.mpr hd), List.cons_prefix_cons]
        split
        next => rw [List.cons_prefix_cons]
        next =>
          rw [List.cons_prefix_cons]
          exact iff_of_false (fun h => hspace.1 h.1.symm) fun h => hsymbol.1 (h.1.trans hd).symm
      · rw [if_neg (by simpa using hd), List.cons_prefix_cons, List.cons_prefix_cons,
          ih hsymbol.2 hspace.2]

theorem not_prefix_cons {c : Char} (hne : symbol ≠ []) (hc : c ∉ symbol) (rest : List Char) :
    ¬ symbol <+: c :: rest := by
  intro hprefix
  rcases List.prefix_cons_iff.mp hprefix with hnil | ⟨later, hcons, -⟩
  · exact hne hnil
  · exact hc (by simp [hcons])

theorem not_standsOutside_nil (hne : symbol ≠ []) : ¬ StandsOutside symbol [] := by
  rintro ⟨before, after, htext, -⟩
  simp_all

theorem exists_content_of_dropWhile {rest after : List Char} {c : Char}
    (hdrop : rest.dropWhile (· != quote) = c :: after) :
    ∃ content, quote ∉ content ∧ rest = content ++ quote :: after := by
  refine ⟨rest.takeWhile (· != quote), ?_, ?_⟩
  · intro hmem
    simpa using List.mem_takeWhile_imp hmem
  · have hc := Text.head?_dropWhile (· != quote) rest
    rw [hdrop] at hc
    obtain rfl : c = quote := by simpa using hc
    rw [← hdrop, List.takeWhile_append_dropWhile]

/-- In the copy without spans a symbol is found just where it stands outside of them. -/
theorem occursIn_withoutQuoted_iff (hne : symbol ≠ []) (hsymbol : quote ∉ symbol)
    (hspace : ' ' ∉ symbol) (text : List Char) :
    Text.occursIn symbol (withoutQuoted text) ↔ StandsOutside symbol text := by
  induction text using withoutQuoted.induct with
  | case1 =>
    rw [withoutQuoted, Text.occursIn, List.isEmpty_iff]
    exact iff_of_false hne (not_standsOutside_nil hne)
  | case2 c rest hc hdrop =>
    have hrest : quote ∉ rest := by
      intro hmem
      simpa using List.dropWhile_eq_nil_iff.mp hdrop quote hmem
    have hcopy : withoutQuoted (c :: rest) = c :: rest := by
      rw [withoutQuoted, if_pos hc]
      split
      next => rfl
      next hfound => rw [hdrop] at hfound; cases hfound
    obtain rfl : c = quote := by simpa using hc
    rw [hcopy, Text.occursIn_iff, standsOutside_quote_iff hsymbol hrest]
  | case3 c rest hc d after hdrop _ ih =>
    obtain rfl : c = quote := by simpa using hc
    obtain ⟨content, hcontent, rfl⟩ := exists_content_of_dropWhile hdrop
    let span : QuotedSpan (quote :: (content ++ quote :: after)) :=
      ⟨[], content, after, rfl, hcontent, rfl⟩
    rw [withoutQuoted_quote hcontent, Text.occursIn, Bool.or_eq_true, List.isPrefixOf_iff_prefix,
      or_iff_right (not_prefix_cons hne hspace _), ih, standsOutside_iff_of_span hsymbol span,
      or_iff_right (not_standsOutside_nil hne)]
  | case4 c rest hc ih =>
    have hcopy := prefix_withoutQuoted_iff hsymbol hspace (c :: rest)
    rw [withoutQuoted, if_neg hc] at hcopy ⊢
    rw [standsOutside_cons_iff hsymbol (by simpa using hc), ← hcopy, ← ih, Text.occursIn,
      Bool.or_eq_true, List.isPrefixOf_iff_prefix]

/-! ### Blank ends -/

/-- A text that shares no character with a symbol adds no place for it at the end. -/
theorem standsOutside_append_iff {text ending : List Char} (hne : symbol ≠ [])
    (hsymbol : quote ∉ symbol) (hending : ∀ c ∈ ending, c ∉ symbol) (hquote : quote ∉ ending) :
    StandsOutside symbol (text ++ ending) ↔ StandsOutside symbol text := by
  simp only [standsOutside_iff_count hsymbol]
  constructor
  · rintro ⟨before, after, htext, hcount⟩
    obtain ⟨later, rfl, rfl⟩ := Text.append_append_eq_append hne hending htext.symm
    refine ⟨before, later, rfl, hcount.imp_right fun hafter hlater => hafter ?_⟩
    exact List.mem_append_left _ hlater
  · rintro ⟨before, after, rfl, hcount⟩
    refine ⟨before, after ++ ending, by simp, hcount.imp_right fun hafter => ?_⟩
    rw [List.mem_append, not_or]
    exact ⟨hafter, hquote⟩

theorem append_standsOutside_iff {start text : List Char} (hne : symbol ≠ [])
    (hsymbol : quote ∉ symbol) (hstart : ∀ c ∈ start, c ∉ symbol) (hquote : quote ∉ start) :
    StandsOutside symbol (start ++ text) ↔ StandsOutside symbol text := by
  induction start with
  | nil => rfl
  | cons c start ih =>
    rw [List.mem_cons, not_or] at hquote
    obtain ⟨hc, hstart⟩ := List.forall_mem_cons.mp hstart
    rw [List.cons_append, standsOutside_cons_iff hsymbol (Ne.symm hquote.1),
      or_iff_right (not_prefix_cons hne hc _), ih hstart hquote.2]

theorem Comparison.symbol_ne_nil (comparison : Comparison) : comparison.symbol ≠ [] := by
  cases comparison <;> nofun

theorem Comparison.quote_notMem_symbol (comparison : Comparison) : quote ∉ comparison.symbol := by
  cases comparison <;> decide

theorem Comparison.isBlank_of_mem_symbol {comparison : Comparison} {c : Char}
    (hc : c ∈ comparison.symbol) : Text.isBlank c = false := by
  have hall : comparison.symbol.all fun d => !Text.isBlank d := by
    cases comparison <;> decide
  simpa using List.all_eq_true.mp hall c hc

theorem Comparison.space_notMem_symbol (comparison : Comparison) : ' ' ∉ comparison.symbol := by
  intro hspace
  exact Bool.noConfusion (isBlank_of_mem_symbol hspace)

theorem quote_notMem_of_isBlank {blanks : List Char} (hblanks : ∀ c ∈ blanks, Text.isBlank c) :
    quote ∉ blanks := by
  intro hquote
  exact Bool.noConfusion (hblanks quote hquote)

theorem standsOutside_trim_iff (comparison : Comparison) (text : List Char) :
    StandsOutside comparison.symbol (Text.trim text) ↔ StandsOutside comparison.symbol text := by
  obtain ⟨start, ending, htext, hstart, hending⟩ := Text.exists_blanks_trim text
  have hshared : ∀ c, Text.isBlank c → c ∉ comparison.symbol := by
    intro c hblank hc
    rw [Comparison.isBlank_of_mem_symbol hc] at hblank
    exact Bool.noConfusion hblank
  have hne := comparison.symbol_ne_nil
  have hsymbol := comparison.quote_notMem_symbol
  conv_rhs => rw [htext]
  rw [append_standsOutside_iff hne hsymbol (fun c hc => hshared c (hstart c hc))
      (quote_notMem_of_isBlank hstart),
    standsOutside_append_iff hne hsymbol (fun c hc => hshared c (hending c hc))
      (quote_notMem_of_isBlank hending)]

/-! ### Negations -/

/-- After its leading blanks a text starts with `NOT`, white space and a parenthesis. -/
def OpensNegation (text : List Char) : Prop :=
  ∃ gap inner, Text.trimStart text = ['N', 'O', 'T'] ++ (gap ++ '(' :: inner) ∧
    ∀ c ∈ gap, c ∈ [' ', '\t', '\r', '\n']

theorem isSome_negationOpen?_iff (text : List Char) :
    (negationOpen? (Text.trimStart text)).isSome ↔ OpensNegation text := by
  have hspace : ∀ c, isSpace c ↔ c ∈ [' ', '\t', '\r', '\n'] := by
    intro c
    simp [isSpace, or_assoc]
  simp only [Option.isSome_iff_exists, negationOpen?_eq_some_iff, hspace]
  constructor
  · rintro ⟨inner, gap, hgap, htext⟩
    exact ⟨gap, inner, htext, hgap⟩
  · rintro ⟨gap, inner, htext, hgap⟩
    exact ⟨inner, gap, hgap, htext⟩

/-- What opens a negation holds no quote, so it stands before the first one. -/
theorem opensNegation_append_quote_iff (before rest : List Char) :
    OpensNegation (before ++ quote :: rest) ↔ OpensNegation before := by
  have htrim : Text.trimStart (before ++ quote :: rest) =
      Text.trimStart before ++ quote :: rest := by
    rw [Text.trimStart, List.dropWhile_append]
    split
    next hempty => rw [Text.trimStart, List.isEmpty_iff.mp hempty]; rfl
    next => rfl
  rw [OpensNegation, OpensNegation, htrim]
  constructor
  · rintro ⟨gap, inner, htext, hgap⟩
    have hopening : quote ∉ ['N', 'O', 'T'] ++ (gap ++ ['(']) := by
      intro hquote
      simp only [List.mem_append] at hquote
      rcases hquote with hword | hquote | hparen
      · exact absurd hword (by decide)
      · exact absurd (hgap quote hquote) (by decide)
      · exact absurd hparen (by decide)
    have hsplit : (['N', 'O', 'T'] ++ (gap ++ ['('])) ++ inner =
        Text.trimStart before ++ quote :: rest := by
      simpa using htext.symm
    obtain ⟨later, hbefore, -⟩ := Text.append_eq_append_cons hopening hsplit
    exact ⟨gap, later, by simpa using hbefore, hgap⟩
  · rintro ⟨gap, inner, htext, hgap⟩
    exact ⟨gap, inner ++ quote :: rest, by simp [htext], hgap⟩

/-- The parenthesis is not blank, so what opens a negation is not trimmed away. -/
theorem opensNegation_trim_iff (text : List Char) :
    OpensNegation (Text.trim text) ↔ OpensNegation text := by
  obtain ⟨ending, hending, hblank⟩ := Text.exists_blanks_trimEnd (Text.trimStart text)
  rw [← Text.trim] at hending
  rw [OpensNegation, OpensNegation, (Text.isTrimmed_trim text).trimStart_eq, hending]
  constructor
  · rintro ⟨gap, inner, htext, hgap⟩
    exact ⟨gap, inner ++ ending, by simp [htext], hgap⟩
  · rintro ⟨gap, inner, htext, hgap⟩
    have hparen : ∀ c ∈ ending, c ∉ ['('] := by
      intro c hc hparen
      obtain rfl := List.mem_singleton.mp hparen
      exact Bool.noConfusion (hblank '(' hc)
    have hsplit : (['N', 'O', 'T'] ++ gap) ++ (['('] ++ inner) = Text.trim text ++ ending := by
      simpa using htext.symm
    have hne : ['('] ≠ [] := List.cons_ne_nil _ _
    obtain ⟨later, htrim, -⟩ := Text.append_append_eq_append hne hparen hsplit
    exact ⟨gap, later, by simpa using htrim, hgap⟩

/-! ### The operator -/

/-- What the operator of a fragment is: a negation if the text starts like one, and otherwise
    told by the first symbol in the given order that stands outside quotes. -/
structure Detected (text : List Char) (operator : Operator) : Prop where
  negation : operator = .isNot ↔ OpensNegation text
  comparison : ∀ c, operator = .compare c ↔ ¬ OpensNegation text ∧ ∃ earlier later,
    [Comparison.greaterEqual, .lessEqual, .greater, .less] = earlier ++ c :: later ∧
      StandsOutside c.symbol text ∧ ∀ e ∈ earlier, ¬ StandsOutside e.symbol text
  equality : operator = .is ↔
    ¬ OpensNegation text ∧ ∀ c : Comparison, ¬ StandsOutside c.symbol text

theorem Comparison.occursIn_withoutQuoted_iff (comparison : Comparison) (text : List Char) :
    Text.occursIn comparison.symbol (withoutQuoted text) ↔
      StandsOutside comparison.symbol text :=
  Predicate.occursIn_withoutQuoted_iff comparison.symbol_ne_nil comparison.quote_notMem_symbol
    comparison.space_notMem_symbol text

/-- The first symbol in sight of detection is the first that stands outside quotes. -/
theorem find?_eq_some_iff_first {text : List Char} {comparison : Comparison} :
    (Comparison.priority.find? fun c => Text.occursIn c.symbol (withoutQuoted text)) =
        some comparison ↔
      ∃ earlier later, [Comparison.greaterEqual, .lessEqual, .greater, .less] =
        earlier ++ comparison :: later ∧ StandsOutside comparison.symbol text ∧
          ∀ e ∈ earlier, ¬ StandsOutside e.symbol text := by
  simp only [List.find?_eq_some_iff_append, Comparison.priority, Bool.not_eq_true',
    ← Comparison.occursIn_withoutQuoted_iff, Bool.not_eq_true]
  constructor
  · rintro ⟨hoccurs, earlier, later, hsplit, hearlier⟩
    exact ⟨earlier, later, hsplit, hoccurs, hearlier⟩
  · rintro ⟨earlier, later, hsplit, hoccurs, hearlier⟩
    exact ⟨hoccurs, earlier, later, hsplit, hearlier⟩

theorem find?_eq_none_iff_forall {text : List Char} :
    (Comparison.priority.find? fun c => Text.occursIn c.symbol (withoutQuoted text)) = none ↔
      ∀ comparison : Comparison, ¬ StandsOutside comparison.symbol text := by
  simp only [List.find?_eq_none, Comparison.occursIn_withoutQuoted_iff]
  constructor
  · intro hnone comparison
    exact hnone comparison (by cases comparison <;> decide)
  · intro hnone comparison _
    exact hnone comparison

theorem detected_operator (text : List Char) : Detected text (Operator.detect text) := by
  by_cases hopen : OpensNegation text
  · have hdetect : Operator.detect text = .isNot := by
      rw [Operator.detect, if_pos ((isSome_negationOpen?_iff text).mpr hopen)]
    rw [hdetect]
    exact ⟨iff_of_true rfl hopen, fun c => iff_of_false (by simp) fun h => h.1 hopen,
      iff_of_false (by simp) fun h => h.1 hopen⟩
  · have hnot : ¬ (negationOpen? (Text.trimStart text)).isSome :=
      (isSome_negationOpen?_iff text).not.mpr hopen
    cases hfind : Comparison.priority.find? fun c =>
        Text.occursIn c.symbol (withoutQuoted text) with
    | none =>
      have hdetect : Operator.detect text = .is := by
        rw [Operator.detect, if_neg hnot, hfind]
      have hnone := find?_eq_none_iff_forall.mp hfind
      rw [hdetect]
      refine ⟨iff_of_false (by simp) hopen, fun c => iff_of_false (by simp) ?_,
        iff_of_true rfl ⟨hopen, hnone⟩⟩
      rintro ⟨-, earlier, later, -, hstands, -⟩
      exact hnone c hstands
    | some first =>
      have hdetect : Operator.detect text = .compare first := by
        rw [Operator.detect, if_neg hnot, hfind]
      rw [hdetect]
      refine ⟨iff_of_false (by simp) hopen, fun c => ?_, iff_of_false (by simp) ?_⟩
      · rw [← find?_eq_some_iff_first, hfind, Option.some.injEq, Operator.compare.injEq]
        exact ⟨fun h => ⟨hopen, h⟩, fun h => h.2⟩
      · rintro ⟨-, hnone⟩
        rw [find?_eq_none_iff_forall.mpr hnone] at hfind
        cases hfind

/-- The operator depends on nothing but the opening and the symbols outside quotes. -/
theorem detect_congr {text text' : List Char} (hopen : OpensNegation text' ↔ OpensNegation text)
    (hstands : ∀ c : Comparison, StandsOutside c.symbol text' ↔ StandsOutside c.symbol text) :
    Operator.detect text' = Operator.detect text := by
  have hdetected := detected_operator text
  have hdetected' := detected_operator text'
  cases hoperator : Operator.detect text with
  | is =>
    rw [hdetected'.equality]
    simpa only [hopen, hstands] using hdetected.equality.mp hoperator
  | isNot =>
    rw [hdetected'.negation, hopen]
    exact hdetected.negation.mp hoperator
  | compare c =>
    rw [hdetected'.comparison]
    simpa only [hopen, hstands] using (hdetected.comparison c).mp hoperator

/-- Only the two longer symbols come before the shorter ones. -/
theorem Detected.not_shorter {text : List Char} {operator : Operator}
    (hdetected : Detected text operator) :
    (StandsOutside Comparison.greaterEqual.symbol text → operator ≠ .compare .greater) ∧
      (StandsOutside Comparison.lessEqual.symbol text → operator ≠ .compare .less) := by
  constructor
  · intro hlonger hgreater
    obtain ⟨-, earlier, later, hsplit, -, hearlier⟩ := (hdetected.comparison .greater).mp hgreater
    cases earlier with
    | nil => cases hsplit
    | cons d earlier =>
      obtain ⟨rfl, -⟩ := List.cons.inj hsplit
      exact hearlier _ List.mem_cons_self hlonger
  · intro hlonger hless
    obtain ⟨-, earlier, later, hsplit, -, hearlier⟩ := (hdetected.comparison .less).mp hless
    cases earlier with
    | nil => cases hsplit
    | cons d earlier =>
      cases earlier with
      | nil => cases hsplit
      | cons e earlier =>
        obtain ⟨rfl, -⟩ := List.cons.inj (List.cons.inj hsplit).2
        exact hearlier _ (by simp) hlonger

theorem detect_trim (text : List Char) :
    Operator.detect (Text.trim text) = Operator.detect text :=
  detect_congr (opensNegation_trim_iff text) fun c => standsOutside_trim_iff c text

namespace QuotedSpan

variable {text : List Char} (span : QuotedSpan text)

/-- The span of the text with something else between the quotes. -/
def refill {content : List Char} (hcontent : quote ∉ content) :
    QuotedSpan (span.refilled content) where
  before := span.before
  content := content
  after := span.after
  text_eq := rfl
  closed := hcontent
  paired := span.paired

theorem standsOutside_refilled_iff (comparison : Comparison) {content : List Char}
    (hcontent : quote ∉ content) :
    StandsOutside comparison.symbol (span.refilled content) ↔
      StandsOutside comparison.symbol text := by
  rw [standsOutside_iff_of_span comparison.quote_notMem_symbol (span.refill hcontent),
    standsOutside_iff_of_span comparison.quote_notMem_symbol span]
  rfl

theorem detect_refilled {content : List Char} (hcontent : quote ∉ content) :
    Operator.detect (span.refilled content) = Operator.detect text := by
  refine detect_congr ?_ fun c => span.standsOutside_refilled_iff c hcontent
  conv_rhs => rw [span.text_eq]
  rw [refilled, opensNegation_append_quote_iff, opensNegation_append_quote_iff]

end QuotedSpan

/-- The operator of a fragment is a negation if the fragment starts like one, and otherwise told
    by the first symbol that stands in it outside of quoted spans, the longer ones first. So
    a symbol in sight is never taken for the one that it starts with, no symbol is made by
    leaving a span out, and neither blank ends nor what a span encloses matter. -/
theorem detected_detect (text : List Char) :
    Detected text (Operator.detect text) ∧
      (StandsOutside Comparison.greaterEqual.symbol text →
        Operator.detect text ≠ .compare .greater) ∧
      (StandsOutside Comparison.lessEqual.symbol text →
        Operator.detect text ≠ .compare .less) ∧
      (∀ c : Comparison, Text.occursIn c.symbol (withoutQuoted text) ↔
        StandsOutside c.symbol text) ∧
      Operator.detect (Text.trim text) = Operator.detect text ∧
      ∀ span : QuotedSpan text,
        (∀ c : Comparison, StandsOutside c.symbol text ↔
          StandsOutside c.symbol span.before ∨ StandsOutside c.symbol span.after) ∧
        ∀ content, quote ∉ content →
          Operator.detect (span.refilled content) = Operator.detect text := by
  have hdetected := detected_operator text
  refine ⟨hdetected, hdetected.not_shorter.1, hdetected.not_shorter.2, ?_, detect_trim text,
    fun span => ⟨?_, ?_⟩⟩
  · intro c
    exact c.occursIn_withoutQuoted_iff text
  · intro c
    exact standsOutside_iff_of_span c.quote_notMem_symbol span
  · intro content hcontent
    exact span.detect_refilled hcontent

/-- A quote that is never closed hides nothing, and a symbol or an opening between paired
    quotes stays hidden. -/
theorem detected_detect_unclosed :
    let text := "\"x>=\":\"1\" \"y<2".toList
    let content := "NOT (".toList
    ∃ span : QuotedSpan text, span.content = "x>=".toList ∧ quote ∉ content ∧
      span.refilled content = "\"NOT (\":\"1\" \"y<2".toList ∧
        Operator.detect text = .compare .less ∧
          Operator.detect (span.refilled content) = .compare .less := by
  intro text content
  let span : QuotedSpan text :=
    { before := [], content := "x>=".toList, after := ":\"1\" \"y<2".toList
      text_eq := by decide, closed := by decide, paired := rfl }
  have hcontent : quote ∉ content := by decide
  have hdetect : Operator.detect text = .compare .less := by decide +kernel
  have hrefilled := ((detected_detect text).2.2.2.2.2 span).2 content hcontent
  exact ⟨span, rfl, hcontent, by decide, hdetect, hrefilled.trans hdetect⟩

end TriggerCompose.Predicate
