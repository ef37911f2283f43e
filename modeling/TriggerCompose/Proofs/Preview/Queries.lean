import TriggerCompose.Proofs.Preview.FieldNames
import TriggerCompose.Proofs.Settings.Duration
import TriggerCompose.Proofs.Settings.Requirements

/-!
# Histogram queries under accepted settings

Accepted settings hold no field that a query could not name, so only a given field can be
refused. The text of a query is put together of the base query and up to two clauses, and the
field that it counts by can be read off it again.

## Main definitions

* `Preview.Resolves`: the field that a query counts by.
* `Preview.Built`: what the query for a base query is like.
* `Preview.TellsApart`: which given fields lead to the same text.

## Main statements

* `Preview.buildQuery_cases`: refused or built.
* `Preview.countingClause_injective`: the counting clause determines the field.
* `Preview.buildQuery_built`: queries under accepted settings.
-/

namespace TriggerCompose.Preview

open Preview.Settings (hasBacktick)

/-! ### The field -/

/-- The field by which a query counts, and whether it is bound to the present time: the field
    that is given, or else the first candidate that stands in the base query, or else the
    synthetic field. -/
inductive Resolves (settings : Settings) (base : String) :
    Option String → String → Bool → Prop where
  | given (field : String) : Resolves settings base (some field) field false
  | found {field : String} {earlier later : List String}
      (split : settings.timestampCandidates = earlier ++ field :: later)
      (stands : StandsIn field.toList base.toList)
      (absent : ∀ c ∈ earlier, ¬ StandsIn c.toList base.toList) :
      Resolves settings base none field false
  | synthetic (absent : ∀ c ∈ settings.timestampCandidates, ¬ StandsIn c.toList base.toList) :
      Resolves settings base none settings.syntheticField true

section

variable {settings : Settings} {base : String} {given? : Option String} {field : String}
  {synthesized : Bool}

theorem Resolves.synthesized_eq_true (h : Resolves settings base given? field synthesized)
    (hsynthesized : synthesized = true) : field = settings.syntheticField := by
  cases h with
  | given => cases hsynthesized
  | found => cases hsynthesized
  | synthetic => rfl

theorem Resolves.of_some {f : String} (h : Resolves settings base (some f) field synthesized) :
    field = f ∧ synthesized = false := by
  cases h
  exact ⟨rfl, rfl⟩

/-- The requirements on settings keep backticks out of every field that was not given. -/
theorem Resolves.hasBacktick_eq_false (hsettings : settings.fault? = none)
    (h : Resolves settings base none field synthesized) : hasBacktick field = false := by
  obtain ⟨-, -, -, hidentifier, hcandidates⟩ := Settings.fault?_eq_none_iff.mp hsettings
  cases h with
  | found split =>
    obtain ⟨-, -, hclean⟩ := Settings.candidatesFault?_eq_none_iff.mp hcandidates
    exact hclean field (by simp [split])
  | synthetic => exact (isPlain_of_isIdentifier hidentifier).hasBacktick_eq_false

end

variable {settings : Settings} {base : String} {field? : Option String}

theorem buildQuery_of_given {field : String} (hgiven : givenField? field? = some field) :
    buildQuery base field? settings =
      if hasBacktick field then .error { field }
      else .ok (queryOf (Text.trimmed base) field false settings) := by
  rw [buildQuery, hgiven]
  rfl

/-- A query is refused for a backtick in a given field and built in all other cases. -/
theorem buildQuery_cases (hsettings : settings.fault? = none) (base : String)
    (field? : Option String) :
    (∃ field, givenField? field? = some field ∧ hasBacktick field = true ∧
        buildQuery base field? settings = .error { field }) ∨
      ∃ field synthesized, Resolves settings (Text.trimmed base) (givenField? field?) field
          synthesized ∧ hasBacktick field = false ∧
        buildQuery base field? settings =
          .ok (queryOf (Text.trimmed base) field synthesized settings) := by
  cases hgiven : givenField? field? with
  | some field =>
    rw [buildQuery_of_given hgiven]
    by_cases hbacktick : hasBacktick field
    · exact .inl ⟨field, rfl, hbacktick, if_pos hbacktick⟩
    · exact .inr ⟨field, false, .given field, by simpa using hbacktick, if_neg hbacktick⟩
  | none =>
    -- Accepted settings have a usable field for whatever the search gives.
    right
    cases hfind : findTimestamp? (Text.trimmed base).toList settings.timestampCandidates with
    | some field =>
      obtain ⟨stands, earlier, later, split, absent⟩ := findTimestamp?_eq_some_iff.mp hfind
      have hresolves : Resolves settings (Text.trimmed base) none field false :=
        .found split stands absent
      have hbacktick := hresolves.hasBacktick_eq_false hsettings
      refine ⟨field, false, hresolves, hbacktick, ?_⟩
      simp [buildQuery, hgiven, hfind, hbacktick]
    | none =>
      have hresolves : Resolves settings (Text.trimmed base) none settings.syntheticField true :=
        .synthetic (findTimestamp?_eq_none_iff.mp hfind)
      refine ⟨_, true, hresolves, hresolves.hasBacktick_eq_false hsettings, ?_⟩
      simp [buildQuery, hgiven, hfind]

theorem buildQuery_eq_error_iff (hsettings : settings.fault? = none) {e : FieldError} :
    buildQuery base field? settings = .error e ↔
      givenField? field? = some e.field ∧ hasBacktick e.field = true := by
  constructor
  · intro herror
    rcases buildQuery_cases hsettings base field? with
      ⟨field, hgiven, hbacktick, hbuild⟩ | ⟨_, _, -, -, hbuild⟩
    · rw [herror] at hbuild
      cases hbuild
      exact ⟨hgiven, hbacktick⟩
    · rw [herror] at hbuild
      cases hbuild
  · rintro ⟨hgiven, hbacktick⟩
    rw [buildQuery_of_given hgiven, if_pos hbacktick]

theorem exists_resolves_of_buildQuery (hsettings : settings.fault? = none) {q : Query}
    (hq : buildQuery base field? settings = .ok q) :
    ∃ field synthesized, Resolves settings (Text.trimmed base) (givenField? field?) field
        synthesized ∧ hasBacktick field = false ∧
      q = queryOf (Text.trimmed base) field synthesized settings := by
  rcases buildQuery_cases hsettings base field? with
    ⟨_, -, -, hbuild⟩ | ⟨field, synthesized, hresolves, hbacktick, hbuild⟩
  · rw [hq] at hbuild
    cases hbuild
  · rw [hq] at hbuild
    cases hbuild
    exact ⟨field, synthesized, hresolves, hbacktick, rfl⟩

/-! ### The text -/

/-- What the query for a trimmed base query is like. -/
structure Built (settings : Settings) (base : String) (given? : Option String) (q : Query) :
    Prop where
  field : Resolves settings base given? q.timestampField q.synthesized
  unquotable : hasBacktick q.timestampField = false
  aggregated : q.aggregated = isAggregated base.toList
  /-- The base query, what binds the field, and what counts by it. -/
  text : ∃ name width, Spells name q.timestampField ∧ Duration.parse width = .ok settings.span ∧
    q.text = base ++ (if q.synthesized then s!" | eval {q.timestampField} = NOW()" else "") ++
      (if q.aggregated then "" else s!" | stats count() by span({name}, {width})")

theorem built_queryOf {given? : Option String} {field : String} {synthesized : Bool}
    (hresolves : Resolves settings base given? field synthesized)
    (hbacktick : hasBacktick field = false) :
    Built settings base given? (queryOf base field synthesized settings) where
  field := hresolves
  unquotable := hbacktick
  aggregated := rfl
  text := by
    refine ⟨fieldName field, settings.span.display, spells_fieldName hbacktick,
      settings.span.parse_display, ?_⟩
    unfold queryOf bindingClause countingClause
    rfl

theorem bindingClause_eq (field : String) :
    bindingClause field = " | eval " ++ field ++ " = NOW()" :=
  rfl

theorem countingClause_eq (field : String) (span : Duration) :
    countingClause field span =
      " | stats count() by span(" ++ fieldName field ++ ", " ++ span.display ++ ")" :=
  rfl

/-- The counting clause is a fixed text, the name of the field, and a text that starts with
    no character of a name. -/
theorem toList_countingClause (field : String) (span : Duration) :
    (countingClause field span).toList = " | stats count() by span(".toList ++
      ((fieldName field).toList ++ ',' :: ' ' :: (span.display.toList ++ [')'])) := by
  simp [countingClause_eq]

theorem countingClause_injective {field field' : String} {span : Duration}
    (hfield : hasBacktick field = false) (hfield' : hasBacktick field' = false)
    (hclause : countingClause field span = countingClause field' span) : field = field' := by
  have hchars := congrArg String.toList hclause
  rw [toList_countingClause, toList_countingClause] at hchars
  -- What stands behind the opening of the clause is read up to the comma.
  have hname := congrArg readName (List.append_cancel_left hchars)
  have hcomma : ∀ later : List Char, (',' :: later).head?.any isPlainChar = false := by
    intro later
    rfl
  rw [readName_fieldName hfield (hcomma _), readName_fieldName hfield' (hcomma _)] at hname
  exact String.toList_inj.mp (Prod.ext_iff.mp hname).1

theorem text_queryOf {field : String} {synthesized : Bool}
    (hbase : isAggregated base.toList = false) :
    (queryOf base field synthesized settings).text =
      base ++ (if synthesized then bindingClause field else "") ++
        countingClause field settings.span := by
  simp [queryOf, hbase]

theorem text_queryOf_ne {field field' : String} (hbase : isAggregated base.toList = false) :
    (queryOf base field true settings).text ≠ (queryOf base field' false settings).text := by
  intro htext
  rw [text_queryOf hbase, text_queryOf hbase, if_pos rfl, if_neg Bool.false_ne_true,
    ← String.toList_inj] at htext
  -- After the base query and the bar one text has `eval` and the other has `stats`.
  simp [bindingClause_eq, toList_countingClause] at htext

theorem text_queryOf_eq_iff {field field' : String} {synthesized synthesized' : Bool}
    (hbase : isAggregated base.toList = false) (hfield : hasBacktick field = false)
    (hfield' : hasBacktick field' = false)
    (hsynthetic : synthesized = true → synthesized' = true → field = field') :
    (queryOf base field synthesized settings).text =
        (queryOf base field' synthesized' settings).text ↔
      field = field' ∧ synthesized = synthesized' := by
  constructor
  · intro htext
    cases synthesized with
    | true =>
      cases synthesized' with
      | true => exact ⟨hsynthetic rfl rfl, rfl⟩
      | false => exact absurd htext (text_queryOf_ne hbase)
    | false =>
      cases synthesized' with
      | true => exact absurd htext.symm (text_queryOf_ne hbase)
      | false =>
        rw [text_queryOf hbase, text_queryOf hbase, if_neg Bool.false_ne_true,
          if_neg Bool.false_ne_true, String.append_right_inj] at htext
        exact ⟨countingClause_injective hfield hfield' htext, rfl⟩
  · rintro ⟨rfl, rfl⟩
    rfl

/-! ### Queries -/

/-- Which fields lead to the same query for a base query that does not count yet. -/
structure TellsApart (settings : Settings) (base : String) : Prop where
  /-- Two given fields do so only if they are one. -/
  given : ∀ {field? field?' : Option String} {f f' : String} {q q' : Query},
    givenField? field? = some f → givenField? field?' = some f' →
      buildQuery base field? settings = .ok q → buildQuery base field?' settings = .ok q' →
        f ≠ f' → q.text ≠ q'.text
  /-- A given field does so with none given only if it is the one that was found. -/
  found : ∀ {field? field?' : Option String} {f' : String} {q q' : Query},
    givenField? field? = none → givenField? field?' = some f' →
      buildQuery base field? settings = .ok q → buildQuery base field?' settings = .ok q' →
        (q.text = q'.text ↔ q.timestampField = f' ∧ q.synthesized = false)

theorem text_eq_iff_of_buildQuery (hsettings : settings.fault? = none)
    (hbase : isAggregated (Text.trimmed base).toList = false) {field?' : Option String}
    {q q' : Query} (hq : buildQuery base field? settings = .ok q)
    (hq' : buildQuery base field?' settings = .ok q') :
    q.text = q'.text ↔ q.timestampField = q'.timestampField ∧ q.synthesized = q'.synthesized := by
  obtain ⟨field, synthesized, hresolves, hbacktick, rfl⟩ :=
    exists_resolves_of_buildQuery hsettings hq
  obtain ⟨field', synthesized', hresolves', hbacktick', rfl⟩ :=
    exists_resolves_of_buildQuery hsettings hq'
  refine text_queryOf_eq_iff hbase hbacktick hbacktick' fun h h' => ?_
  rw [hresolves.synthesized_eq_true h, hresolves'.synthesized_eq_true h']

theorem built_of_buildQuery (hsettings : settings.fault? = none) {q : Query}
    (hq : buildQuery base field? settings = .ok q) :
    Built settings (Text.trimmed base) (givenField? field?) q := by
  obtain ⟨field, synthesized, hresolves, hbacktick, rfl⟩ :=
    exists_resolves_of_buildQuery hsettings hq
  exact built_queryOf hresolves hbacktick

theorem tellsApart (hsettings : settings.fault? = none)
    (hbase : isAggregated (Text.trimmed base).toList = false) : TellsApart settings base where
  given {_ _ _ _ q q'} hgiven hgiven' hq hq' hne htext := by
    obtain ⟨hfield, -⟩ := (hgiven ▸ (built_of_buildQuery hsettings hq).field).of_some
    obtain ⟨hfield', -⟩ := (hgiven' ▸ (built_of_buildQuery hsettings hq').field).of_some
    have hsame := (text_eq_iff_of_buildQuery hsettings hbase hq hq').mp htext
    exact hne (hfield.symm.trans (hsame.1.trans hfield'))
  found {_ _ _ q q'} _ hgiven' hq hq' := by
    obtain ⟨hfield', hsynthesized'⟩ :=
      (hgiven' ▸ (built_of_buildQuery hsettings hq').field).of_some
    rw [text_eq_iff_of_buildQuery hsettings hbase hq hq', hfield', hsynthesized']

/-- Under the settings of a configuration text a query is refused just for a backtick in the
    given field. Every other query is the base query with the clauses that it lacks, and its
    text tells the field that it counts by. -/
theorem buildQuery_built {text : String} {settings : TriggerCompose.Settings}
    (hsettings : Settings.ofText text = .ok settings) (base : String) :
    (∀ (field? : Option String) (e : FieldError),
        (buildQuery base field? settings.preview = .error e ↔
          givenField? field? = some e.field ∧ hasBacktick e.field = true) ∧
        e.failure.reason = .invalidField) ∧
      (∀ (field? : Option String) (q : Query), buildQuery base field? settings.preview = .ok q →
        Built settings.preview (Text.trimmed base) (givenField? field?) q) ∧
      (isAggregated (Text.trimmed base).toList = false → TellsApart settings.preview base) := by
  have hpreview := Settings.fault?_preview_of_ofText hsettings
  refine ⟨?_, ?_, ?_⟩
  · intro field? e
    exact ⟨buildQuery_eq_error_iff hpreview, rfl⟩
  · intro field? q hq
    exact built_of_buildQuery hpreview hq
  · intro hbase
    exact tellsApart hpreview hbase

/-- A field with a space in it is quoted. -/
theorem buildQuery_event_time :
    let base := " source = logs"
    Settings.ofText "" = .ok .standard ∧ ∃ q, buildQuery base (some "event time ") .standard = .ok q ∧
      q.text = "source = logs | stats count() by span(\x60event time\x60, 1h)" ∧
        Built .standard "source = logs" (some "event time") q ∧ TellsApart .standard base := by
  intro base
  obtain ⟨-, hbuilt, happart⟩ := buildQuery_built Settings.ofText_empty base
  have hq : buildQuery base (some "event time ") .standard = .ok
      ⟨"source = logs | stats count() by span(\x60event time\x60, 1h)", "event time", false, false⟩ := by
    decide +kernel
  have hbase : Text.trimmed base = "source = logs" := by decide +kernel
  have hgiven : givenField? (some "event time ") = some "event time" := by decide +kernel
  refine ⟨Settings.ofText_empty, _, hq, rfl, ?_, happart (by decide +kernel)⟩
  rw [← hbase, ← hgiven]
  exact hbuilt _ _ hq

/-- With no field given, the query is the one for the candidate that is found. -/
theorem buildQuery_found_eq_given :
    ∃ settings q, Settings.ofText "" = .ok settings ∧
      isAggregated "source = logs | sort timestamp".toList = false ∧
      givenField? none ≠ givenField? (some "timestamp") ∧
      buildQuery "source = logs | sort timestamp" none settings.preview = .ok q ∧
      buildQuery "source = logs | sort timestamp" (some "timestamp") settings.preview = .ok q := by
  refine ⟨.standard, ⟨"source = logs | sort timestamp | stats count() by span(timestamp, 1h)",
    "timestamp", false, false⟩, Settings.ofText_empty, ?_, ?_, ?_, ?_⟩ <;> decide +kernel

end TriggerCompose.Preview
