import TriggerCompose.Proofs.Outcome
import TriggerCompose.Proofs.Preview.Queries
import TriggerCompose.Proofs.Text.Blanks

/-!
# Queries are aggregated once

The search for an aggregation sees each stage of a query by itself, because nothing that it
looks for reaches across a bar or is changed by blanks at the ends. A query that was built
holds an aggregation, so building it anew never adds a second one.

## Main definitions

* `Preview.rebuild`: a query built anew, again and again.
* `Preview.CountsOnce`: what building anew makes of a query.

## Main statements

* `Preview.hasAggregation_append`: where the search may be cut in two.
* `Preview.isAggregated_append_bar`: the stages of a query.
* `Preview.isAggregated_trim`: blanks at the ends.
* `Preview.countsOnce_of_buildQuery`: building anew.
-/

namespace TriggerCompose.Preview

open Preview.Settings (hasBacktick)

/-! ### Where the search may be cut -/

-- Tested as lists, since a bounded quantifier over characters need not be decided by its bound.
theorem isWord_of_mem_stats : ∀ c ∈ "stats".toList, Text.isWord c :=
  List.all_eq_true.mp (by decide)

theorem isWord_of_mem_span : ∀ c ∈ "span".toList, Text.isWord c :=
  List.all_eq_true.mp (by decide)

/-- A word is not read across a character that belongs to no word. -/
theorem isPrefixOf?_append {word tail : List Char} (hword : ∀ c ∈ word, Text.isWord c)
    (htail : tail.head?.any Text.isWord = false) (text : List Char) :
    word.isPrefixOf? (text ++ tail) = (word.isPrefixOf? text).map (· ++ tail) := by
  induction word generalizing text with
  | nil => rfl
  | cons c word ih =>
    obtain ⟨hc, hword⟩ := List.forall_mem_cons.mp hword
    cases text with
    | nil =>
      cases tail with
      | nil => rfl
      | cons d tail =>
        have hne : (c == d) = false := by
          rw [beq_eq_false_iff_ne]
          rintro rfl
          rw [List.head?_cons, Option.any_some, hc] at htail
          cases htail
        simp [List.isPrefixOf?, hne]
    | cons d text =>
      rw [List.cons_append, List.isPrefixOf?, List.isPrefixOf?]
      split
      · exact ih hword text
      · rfl

section

variable {tail : List Char} (htail : tail.head?.any Text.isWord = false)

include htail

theorem startsStats_append (text : List Char) : startsStats (text ++ tail) = startsStats text := by
  rw [startsStats, startsStats, isPrefixOf?_append isWord_of_mem_stats htail]
  cases List.isPrefixOf? "stats".toList text with
  | none => rfl
  | some rest =>
    cases rest with
    | nil => simp [htail]
    | cons c rest => rfl

theorem startsSpan_append (hopen : (Text.trimStart tail).head? ≠ some '(') (text : List Char) :
    startsSpan (text ++ tail) = startsSpan text := by
  rw [startsSpan, startsSpan, isPrefixOf?_append isWord_of_mem_span htail]
  cases List.isPrefixOf? "span".toList text with
  | none => rfl
  | some rest =>
    simp only [Option.map_some]
    by_cases hblank : (Text.trimStart rest).isEmpty
    · -- Only blanks are left of the text, so the first other character is one of the tail.
      have happend : Text.trimStart (rest ++ tail) = Text.trimStart tail := by
        rw [Text.trimStart, List.dropWhile_append]
        exact if_pos hblank
      rw [happend, List.isEmpty_iff.mp hblank]
      simpa using hopen
    · have happend : Text.trimStart (rest ++ tail) = Text.trimStart rest ++ tail := by
        rw [Text.trimStart, List.dropWhile_append]
        exact if_neg hblank
      rw [happend]
      cases hrest : Text.trimStart rest with
      | nil => simp [hrest] at hblank
      | cons c rest => rfl

end

/-- The search passes over a character that belongs to no word. -/
theorem hasAggregation_cons {c : Char} (hc : Text.isWord c = false) (insideWord : Bool)
    (rest : List Char) : hasAggregation insideWord (c :: rest) = hasAggregation false rest := by
  have hread : ∀ word : List Char, (∀ d ∈ word, Text.isWord d) → word ≠ [] →
      word.isPrefixOf? (c :: rest) = none := by
    intro word hword hne
    obtain ⟨d, word, rfl⟩ := List.exists_cons_of_ne_nil hne
    have hhead : (c :: rest).head?.any Text.isWord = false := hc
    exact isPrefixOf?_append hword hhead []
  have hstats : startsStats (c :: rest) = false := by
    rw [startsStats, hread _ isWord_of_mem_stats (by decide)]
  have hspan : startsSpan (c :: rest) = false := by
    rw [startsSpan, hread _ isWord_of_mem_span (by decide)]
  rw [hasAggregation, hstats, hspan, hc, Bool.or_self, Bool.and_false, Bool.false_or]

/-- The search may be cut before a character that belongs to no word, unless a parenthesis is
    the next character that is not blank. -/
theorem hasAggregation_append {tail : List Char} (htail : tail.head?.any Text.isWord = false)
    (hopen : (Text.trimStart tail).head? ≠ some '(') (text : List Char) (insideWord : Bool) :
    hasAggregation insideWord (text ++ tail) =
      (hasAggregation insideWord text || hasAggregation false tail) := by
  induction text generalizing insideWord with
  | nil =>
    cases tail with
    | nil => rfl
    | cons c tail =>
      rw [List.nil_append, hasAggregation_cons htail, hasAggregation_cons htail, hasAggregation,
        Bool.false_or]
  | cons c text ih =>
    have hstats := startsStats_append htail (c :: text)
    have hspan := startsSpan_append htail hopen (c :: text)
    rw [List.cons_append] at hstats hspan ⊢
    rw [hasAggregation, hasAggregation, hstats, hspan, ih, Bool.or_assoc]

theorem hasAggregation_blanks_append {blanks : List Char} (hblanks : ∀ c ∈ blanks, Text.isBlank c)
    (text : List Char) : hasAggregation false (blanks ++ text) = hasAggregation false text := by
  induction blanks with
  | nil => rfl
  | cons c blanks ih =>
    obtain ⟨hc, hblanks⟩ := List.forall_mem_cons.mp hblanks
    rw [List.cons_append, hasAggregation_cons (Text.isWord_of_isBlank hc), ih hblanks]

theorem hasAggregation_append_blanks {blanks : List Char} (hblanks : ∀ c ∈ blanks, Text.isBlank c)
    (text : List Char) (insideWord : Bool) :
    hasAggregation insideWord (text ++ blanks) = hasAggregation insideWord text := by
  have hhead : blanks.head?.any Text.isWord = false :=
    (Option.any_eq_false _ _).mpr fun c hc =>
      by simp [Text.isWord_of_isBlank (hblanks c (List.mem_of_mem_head? hc))]
  have hopen : (Text.trimStart blanks).head? ≠ some '(' := by
    intro hparenthesis
    have hmem : '(' ∈ blanks := (List.dropWhile_suffix _).subset (List.mem_of_mem_head? hparenthesis)
    exact absurd (hblanks _ hmem) (by decide)
  have htail : hasAggregation false blanks = false := by
    rw [← List.append_nil blanks, hasAggregation_blanks_append hblanks]
    rfl
  rw [hasAggregation_append hhead hopen, htail, Bool.or_false]

/-! ### Query texts -/

/-- A bar parts a query text into stages that count or do not count by themselves. -/
theorem isAggregated_append_bar (a b : List Char) :
    isAggregated (a ++ " | ".toList ++ b) = (isAggregated a || isAggregated b) := by
  have hbar : hasAggregation false (' ' :: '|' :: ' ' :: b.map Text.foldLetter) =
      hasAggregation false (b.map Text.foldLetter) := by
    rw [hasAggregation_cons (by decide), hasAggregation_cons (by decide),
      hasAggregation_cons (by decide)]
  have hfold : (a ++ " | ".toList ++ b).map Text.foldLetter =
      a.map Text.foldLetter ++ ' ' :: '|' :: ' ' :: b.map Text.foldLetter := by
    simp
    decide
  have hopen : (Text.trimStart (' ' :: '|' :: ' ' :: b.map Text.foldLetter)).head? = some '|' := rfl
  rw [isAggregated, hfold, hasAggregation_append rfl (by rw [hopen]; decide), hbar]
  rfl

theorem map_foldLetter_of_isBlank {blanks : List Char} (hblanks : ∀ c ∈ blanks, Text.isBlank c) :
    blanks.map Text.foldLetter = blanks :=
  (List.map_congr_left fun c hc => Text.foldLetter_of_isBlank (hblanks c hc)).trans (List.map_id _)

/-- Blanks at the ends of a query text do not count. -/
theorem isAggregated_trim (text : List Char) : isAggregated (Text.trim text) = isAggregated text := by
  obtain ⟨before, after, htext, hbefore, hafter⟩ := Text.exists_blanks_trim text
  conv => rhs; rw [htext]
  rw [isAggregated, isAggregated, List.map_append, List.map_append,
    map_foldLetter_of_isBlank hbefore, map_foldLetter_of_isBlank hafter,
    hasAggregation_blanks_append hbefore, hasAggregation_append_blanks hafter]

/-! ### Clauses -/

theorem isAggregated_append_stage (text stage : String) :
    isAggregated (text ++ (" | " ++ stage)).toList =
      (isAggregated text.toList || isAggregated stage.toList) := by
  rw [String.toList_append, String.toList_append, ← List.append_assoc]
  exact isAggregated_append_bar text.toList stage.toList

theorem isAggregated_append_bindingClause {text : String} (htext : isAggregated text.toList)
    (field : String) : isAggregated (text ++ bindingClause field).toList := by
  have hclause : bindingClause field = " | " ++ ("eval " ++ field ++ " = NOW()") := by
    rw [bindingClause_eq, ← String.append_assoc, ← String.append_assoc]
    rfl
  rw [hclause, isAggregated_append_stage, htext, Bool.true_or]

theorem isAggregated_append_countingClause (text field : String) (span : Duration) :
    isAggregated (text ++ countingClause field span).toList := by
  obtain ⟨later, hlater⟩ : ∃ later, countingClause field span = " | " ++ ("stats " ++ later) := by
    refine ⟨"count() by span(" ++ fieldName field ++ ", " ++ span.display ++ ")", ?_⟩
    simp only [countingClause_eq, ← String.append_assoc]
    rfl
  have hstats : isAggregated ("stats " ++ later).toList = true := by
    rw [isAggregated, String.toList_append, List.map_append]
    rfl
  rw [hlater, isAggregated_append_stage, hstats, Bool.or_true]

theorem aggregated_queryOf (base field : String) (synthesized : Bool) (settings : Settings) :
    (queryOf base field synthesized settings).aggregated = isAggregated base.toList :=
  rfl

theorem text_queryOf_of_isAggregated {base : String} (hbase : isAggregated base.toList)
    (field : String) (synthesized : Bool) (settings : Settings) :
    (queryOf base field synthesized settings).text =
      base ++ if synthesized then bindingClause field else "" := by
  simp [queryOf, hbase]

/-- A query aggregates, by itself or by the clause that was put behind it. -/
theorem isAggregated_text_queryOf (base field : String) (synthesized : Bool)
    (settings : Settings) : isAggregated (queryOf base field synthesized settings).text.toList := by
  by_cases hbase : isAggregated base.toList
  · rw [text_queryOf_of_isAggregated hbase]
    cases synthesized with
    | false => simpa using hbase
    | true => exact isAggregated_append_bindingClause hbase field
  · rw [text_queryOf (by simpa using hbase)]
    exact isAggregated_append_countingClause _ field settings.span

/-! ### Building anew -/

theorem exists_queryOf_of_buildQuery {base : String} {field? : Option String}
    {settings : Settings} {q : Query} (hq : buildQuery base field? settings = .ok q) :
    ∃ field synthesized, q = queryOf (Text.trimmed base) field synthesized settings ∧
      (synthesized = true → field = settings.syntheticField) := by
  rw [buildQuery] at hq
  split at hq
  next field _ =>
    split at hq
    · cases hq
    · cases hq
      exact ⟨field, false, rfl, fun h => absurd h Bool.false_ne_true⟩
  next =>
    cases hq
    exact ⟨settings.syntheticField, true, rfl, fun _ => rfl⟩

theorem isAggregated_trimmed {text : String} (htext : isAggregated text.toList) :
    isAggregated (Text.trimmed text).toList := by
  rw [Text.toList_trimmed, isAggregated_trim, htext]

theorem givenField?_of_not_blank {field : String} (hfield : Text.isBlankText field = false) :
    givenField? (some field) = some (Text.trimmed field) := by
  have hne : (Text.trimmed field).isEmpty = false := by
    simpa using Text.trimmed_ne_empty hfield
  simp [givenField?, hne]

theorem hasBacktick_trimmed {field : String} (hfield : hasBacktick field = false) :
    hasBacktick (Text.trimmed field) = false := by
  rw [hasBacktick_eq_false_iff] at hfield ⊢
  exact fun hmem => hfield (Text.mem_of_mem_trimmed hmem)

/-- With a field given, a query that aggregates is only trimmed. -/
theorem buildQuery_of_isAggregated {text field : String} (htext : isAggregated text.toList)
    (hfield : Text.isBlankText field = false) (settings : Settings) :
    buildQuery text (some field) settings =
      if hasBacktick (Text.trimmed field) then .error { field := Text.trimmed field }
      else .ok ⟨Text.trimmed text, Text.trimmed field, false, true⟩ := by
  rw [buildQuery_of_given (givenField?_of_not_blank hfield)]
  simp [queryOf, isAggregated_trimmed htext]

/-- Builds a query anew for each of some given fields, each time from the text built last. -/
def rebuild (steps : List (String × Settings)) (q : Query) : Except FieldError Query :=
  steps.foldlM (fun q step => buildQuery q.text (some step.1) step.2) q

/-- What building anew makes of a query. -/
structure CountsOnce (q : Query) : Prop where
  aggregates : isAggregated q.text.toList = true
  /-- No second clause that counts is put behind it, whatever the field and the settings. -/
  built : ∀ field? settings q', buildQuery q.text field? settings = .ok q' →
    q'.aggregated = true ∧ q'.text = Text.trimmed q.text ++
      if q'.synthesized then s!" | eval {settings.syntheticField} = NOW()" else ""
  /-- With given fields it does not change any more. -/
  unchanged : ∀ steps q', steps ≠ [] → (∀ step ∈ steps, Text.isBlankText step.1 = false) →
    rebuild steps q = .ok q' → q'.text = Text.trimmed q.text
  succeeds : ∀ steps, (∀ step ∈ steps, Text.isBlankText step.1 = false) →
    (∀ step ∈ steps, hasBacktick step.1 = false) → ∃ q', rebuild steps q = .ok q'

variable {q q' : Query} {step : String × Settings} {steps : List (String × Settings)}

theorem rebuild_cons_eq_ok_iff : rebuild (step :: steps) q = .ok q' ↔
    ∃ next, buildQuery q.text (some step.1) step.2 = .ok next ∧ rebuild steps next = .ok q' :=
  Outcome.bind_eq_ok_iff

theorem text_of_buildQuery {field : String} {settings : Settings} {next : Query}
    (haggregated : isAggregated q.text.toList) (hfield : Text.isBlankText field = false)
    (hnext : buildQuery q.text (some field) settings = .ok next) :
    next.text = Text.trimmed q.text ∧ isAggregated next.text.toList := by
  rw [buildQuery_of_isAggregated haggregated hfield] at hnext
  split at hnext
  · cases hnext
  · obtain rfl := Except.ok.inj hnext
    exact ⟨rfl, isAggregated_trimmed haggregated⟩

/-- The first step leaves the query trimmed, and trimming it again does nothing. -/
theorem text_of_rebuild (haggregated : isAggregated q.text.toList) (hne : steps ≠ [])
    (hfields : ∀ step ∈ steps, Text.isBlankText step.1 = false) (h : rebuild steps q = .ok q') :
    q'.text = Text.trimmed q.text := by
  induction steps generalizing q with
  | nil => contradiction
  | cons step steps ih =>
    obtain ⟨hfield, hfields⟩ := List.forall_mem_cons.mp hfields
    obtain ⟨next, hnext, h⟩ := rebuild_cons_eq_ok_iff.mp h
    obtain ⟨htext, haggregates⟩ := text_of_buildQuery haggregated hfield hnext
    cases steps with
    | nil =>
      cases h
      exact htext
    | cons step' steps =>
      rw [ih haggregates (List.cons_ne_nil _ _) hfields h, htext, Text.trimmed_trimmed]

theorem exists_rebuild (haggregated : isAggregated q.text.toList)
    (hfields : ∀ step ∈ steps, Text.isBlankText step.1 = false)
    (hbackticks : ∀ step ∈ steps, hasBacktick step.1 = false) :
    ∃ q', rebuild steps q = .ok q' := by
  induction steps generalizing q with
  | nil => exact ⟨q, rfl⟩
  | cons step steps ih =>
    obtain ⟨hfield, hfields⟩ := List.forall_mem_cons.mp hfields
    obtain ⟨hbacktick, hbackticks⟩ := List.forall_mem_cons.mp hbackticks
    obtain ⟨next, hnext⟩ : ∃ next, buildQuery q.text (some step.1) step.2 = .ok next := by
      rw [buildQuery_of_isAggregated haggregated hfield, hasBacktick_trimmed hbacktick]
      exact ⟨_, rfl⟩
    obtain ⟨-, haggregates⟩ := text_of_buildQuery haggregated hfield hnext
    obtain ⟨q', h⟩ := ih haggregates hfields hbackticks
    exact ⟨q', rebuild_cons_eq_ok_iff.mpr ⟨next, hnext, h⟩⟩

theorem countsOnce_of_isAggregated (haggregated : isAggregated q.text.toList) : CountsOnce q where
  aggregates := haggregated
  built field? settings q' hq' := by
    obtain ⟨field, synthesized, rfl, hsynthetic⟩ := exists_queryOf_of_buildQuery hq'
    have htrimmed := isAggregated_trimmed haggregated
    rw [aggregated_queryOf, text_queryOf_of_isAggregated htrimmed]
    refine ⟨htrimmed, ?_⟩
    cases synthesized with
    | false => rfl
    | true =>
      rw [hsynthetic rfl]
      rfl
  unchanged _ _ hne hfields h := text_of_rebuild haggregated hne hfields h
  succeeds _ hfields hbackticks := exists_rebuild haggregated hfields hbackticks

/-- The stages of a query text count by themselves, so any query that was built, under
    whatever settings, is never aggregated a second time. -/
theorem countsOnce_of_buildQuery :
    (∀ a b, isAggregated (a ++ " | ".toList ++ b) = (isAggregated a || isAggregated b)) ∧
      ∀ base field? settings q, buildQuery base field? settings = .ok q → CountsOnce q := by
  refine ⟨isAggregated_append_bar, fun base field? settings q hq => ?_⟩
  obtain ⟨field, synthesized, rfl, -⟩ := exists_queryOf_of_buildQuery hq
  exact countsOnce_of_isAggregated (isAggregated_text_queryOf _ field synthesized settings)

/-- The query for no base query starts with a blank. -/
theorem countsOnce_of_buildQuery_blank : ∃ q, buildQuery " " none .standard = .ok q ∧
    q.text = " | eval __ppl_ts = NOW() | stats count() by span(__ppl_ts, 1h)" ∧ CountsOnce q := by
  have hq : buildQuery " " none .standard = .ok
      ⟨" | eval __ppl_ts = NOW() | stats count() by span(__ppl_ts, 1h)", "__ppl_ts", true, false⟩ := by
    decide +kernel
  exact ⟨_, hq, rfl, countsOnce_of_buildQuery.2 _ _ _ _ hq⟩

end TriggerCompose.Preview
