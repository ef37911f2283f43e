import TriggerCompose.Proofs.Preview.FieldNames
import TriggerCompose.Proofs.Settings.Requirements
import TriggerCompose.Proofs.Text.Letters

/-!
# The checks on configurations

A configuration is checked requirement by requirement, in a fixed order, and the first one that
it violates is reported. It is accepted just if it satisfies all of them, and what is accepted
has a gap policy that says something and a synthetic field that queries need not quote.

## Main definitions

* `Settings.Requirement`: the requirements, in the order of the checks.
* `Settings.Requirement.Holds`: what a requirement asks of the sections of a configuration.
* `Settings.Requirement.Reports`: what is reported where it is violated.
* `Settings.Requirement.check`: the single checks.

## Main statements

* `Settings.Requirement.check_eq_some_iff`: a check reports a violation.
* `Settings.resolve_eq_error_iff`: the first violated requirement is reported.
* `Settings.checked_ofText`: the checks on a configuration text.
-/

namespace TriggerCompose.Settings

open Text (IsCaseOf isBlank isBlankText lowerAscii)
open Preview (IsNameChar isPlainField fieldName)

/-! ### Requirements -/

/-- The requirements on the sections of a configuration, in the order of the checks. -/
inductive Requirement where
  | connector
  | span
  | syntheticBuckets
  | minBuckets
  | syntheticField
  | candidates
  | candidateNames
  | candidateQuotes
  | scriptLanguage
  | level

/-- A text that names a connector: one of the two symbols, or one of the two words in any ASCII
    case. -/
def NamesConnector (text : String) : Prop :=
  text = "&&" ∨ text = "||" ∨ List.Forall₂ IsCaseOf text.toList "and".toList ∨
    List.Forall₂ IsCaseOf text.toList "or".toList

/-- An identifier: an ASCII letter or an underscore, and after it letters, digits and
    underscores. -/
def IsIdentifier (name : String) : Prop :=
  ∃ first rest, name.toList = first :: rest ∧
    (('A' ≤ first ∧ first ≤ 'Z') ∨ ('a' ≤ first ∧ first ≤ 'z') ∨ first = '_') ∧
      ∀ c ∈ rest, IsNameChar c

/-- A text with a character that is not blank. -/
def IsNonblank (text : String) : Prop :=
  ∃ c ∈ text.toList, isBlank c = false

/-- The place of the first text of a list that violates something. -/
structure FirstAt (violates : String → Prop) (texts : List String) (index : Nat) : Prop where
  mem : ∃ text, texts[index]? = some text ∧ violates text
  first : ∀ i < index, ∀ text, texts[i]? = some text → ¬ violates text

namespace Requirement

/-- All requirements, in the order of the checks. -/
def all : List Requirement :=
  [connector, span, syntheticBuckets, minBuckets, syntheticField, candidates, candidateNames,
    candidateQuotes, scriptLanguage, level]

/-- What a requirement asks of the sections of a configuration. -/
def Holds (s : Sections) : Requirement → Prop
  | connector => NamesConnector s.condition.defaultConnector
  | span => 0 < s.preview.span.seconds
  | syntheticBuckets => 1 ≤ s.preview.syntheticBuckets
  | minBuckets => 1 ≤ s.preview.minBuckets
  | syntheticField => IsIdentifier s.preview.syntheticField
  | candidates => s.preview.timestampCandidates ≠ []
  | candidateNames => ∀ c ∈ s.preview.timestampCandidates, IsNonblank c
  | candidateQuotes => ∀ c ∈ s.preview.timestampCandidates, '\x60' ∉ c.toList
  | scriptLanguage => IsNonblank s.condition.scriptLanguage
  | level => IsNonblank s.logging.level

/-- What is reported where a requirement is violated. Of the candidates the leftmost one that
    violates it is named. -/
def Reports (s : Sections) : Requirement → Fault → Prop
  | connector, fault => fault = .unknownConnector s.condition.defaultConnector
  | span, fault => fault = .preview .zeroSpan
  | syntheticBuckets, fault => fault = .preview .noSyntheticBuckets
  | minBuckets, fault => fault = .preview .noMinBuckets
  | syntheticField, fault => fault = .preview (.syntheticField s.preview.syntheticField)
  | candidates, fault => fault = .preview .noCandidates
  | candidateNames, fault => ∃ index, fault = .preview (.blankCandidate index) ∧
      FirstAt (¬ IsNonblank ·) s.preview.timestampCandidates index
  | candidateQuotes, fault => ∃ index, fault = .preview (.backtickInCandidate index) ∧
      FirstAt ('\x60' ∈ ·.toList) s.preview.timestampCandidates index
  | scriptLanguage, fault => fault = .blankLanguage
  | level, fault => fault = .blankLevel

/-- The entry of a configuration that a requirement is about. -/
def entry : Requirement → String
  | connector => "condition.default_connector"
  | span => "preview.span"
  | syntheticBuckets => "preview.synthetic_buckets"
  | minBuckets => "preview.min_buckets"
  | syntheticField => "preview.synthetic_field"
  | candidates | candidateNames | candidateQuotes => "preview.timestamp_candidates"
  | scriptLanguage => "condition.script_lang"
  | level => "logging.level"

/-- The check of a requirement, which gives a fault where it is violated. -/
def check (s : Sections) : Requirement → Option Fault
  | connector =>
    if s.condition.options?.isNone then some (.unknownConnector s.condition.defaultConnector)
    else none
  | span => if s.preview.span.isZero then some (.preview .zeroSpan) else none
  | syntheticBuckets =>
    if s.preview.syntheticBuckets = 0 then some (.preview .noSyntheticBuckets) else none
  | minBuckets => if s.preview.minBuckets = 0 then some (.preview .noMinBuckets) else none
  | syntheticField =>
    if ! Preview.Settings.isIdentifier s.preview.syntheticField then
      some (.preview (.syntheticField s.preview.syntheticField))
    else none
  | candidates =>
    if s.preview.timestampCandidates.isEmpty then some (.preview .noCandidates) else none
  | candidateNames =>
    (s.preview.timestampCandidates.findIdx? isBlankText).map (.preview <| .blankCandidate ·)
  | candidateQuotes =>
    (s.preview.timestampCandidates.findIdx? Preview.Settings.hasBacktick).map
      (.preview <| .backtickInCandidate ·)
  | scriptLanguage => if isBlankText s.condition.scriptLanguage then some .blankLanguage else none
  | level => if isBlankText s.logging.level then some .blankLevel else none

end Requirement

/-! ### Single checks -/

theorem isBlankText_iff {text : String} : isBlankText text ↔ ¬ IsNonblank text := by
  simp [isBlankText, IsNonblank]

theorem isBlankText_eq_false_iff {text : String} : isBlankText text = false ↔ IsNonblank text := by
  rw [← Bool.not_eq_true, isBlankText_iff, not_not]

theorem hasBacktick_iff {text : String} :
    Preview.Settings.hasBacktick text ↔ '\x60' ∈ text.toList :=
  List.contains_iff_mem

theorem isSome_options?_iff {c : Condition.Section} :
    c.options?.isSome ↔ NamesConnector c.defaultConnector := by
  have hand := @Text.lowerAscii_eq_iff c.defaultConnector "and" (List.all_eq_true.mp (by decide))
  have hor := @Text.lowerAscii_eq_iff c.defaultConnector "or" (List.all_eq_true.mp (by decide))
  rw [Condition.Section.options?, Option.isSome_map, Condition.Connector.ofText?,
    Condition.Connector.ofSymbol?, NamesConnector, ← hand, ← hor]
  split_ifs <;> simp_all

theorem isIdentifier_iff {name : String} :
    Preview.Settings.isIdentifier name ↔ IsIdentifier name := by
  have hletter : ∀ c : Char, c.isAlpha =
      (decide ('A' ≤ c ∧ c ≤ 'Z') || decide ('a' ≤ c) && decide (c ≤ 'z')) := fun _ => rfl
  have hlater : ∀ c : Char, (c.isAlphanum || c == '_') = true ↔ IsNameChar c := fun _ =>
    Preview.continuesName_iff
  rw [Preview.Settings.isIdentifier]
  cases hname : name.toList with
  | nil => simp [IsIdentifier, hname]
  | cons first rest =>
    simp only [hletter, Bool.and_eq_true, Bool.or_eq_true, decide_eq_true_eq, beq_iff_eq,
      List.all_eq_true, hlater, or_assoc, IsIdentifier, hname, List.cons.injEq]
    constructor
    · rintro ⟨hfirst, hrest⟩
      exact ⟨first, rest, ⟨rfl, rfl⟩, hfirst, hrest⟩
    · rintro ⟨first', rest', ⟨rfl, rfl⟩, hfirst, hrest⟩
      exact ⟨hfirst, hrest⟩

theorem findIdx?_eq_some_iff {p : String → Bool} {violates : String → Prop}
    (hp : ∀ text, p text ↔ violates text) {texts : List String} {index : Nat} :
    texts.findIdx? p = some index ↔ FirstAt violates texts index := by
  rw [List.findIdx?_eq_some_iff_getElem]
  simp only [hp]
  constructor
  · rintro ⟨hlt, hfound, hfirst⟩
    refine ⟨⟨_, List.getElem?_eq_getElem hlt, hfound⟩, ?_⟩
    intro i hi text htext
    obtain ⟨_, rfl⟩ := List.getElem?_eq_some_iff.mp htext
    exact hfirst i hi
  · rintro ⟨⟨text, htext, hviolates⟩, hfirst⟩
    obtain ⟨hlt, rfl⟩ := List.getElem?_eq_some_iff.mp htext
    refine ⟨hlt, hviolates, ?_⟩
    intro i hi
    exact hfirst i hi _ (List.getElem?_eq_getElem (by omega))

theorem FirstAt.eq {violates : String → Prop} {texts : List String} {i j : Nat}
    (hi : FirstAt violates texts i) (hj : FirstAt violates texts j) : i = j := by
  obtain ⟨text, htext, hviolates⟩ := hi.mem
  obtain ⟨text', htext', hviolates'⟩ := hj.mem
  rcases Nat.lt_trichotomy i j with hlt | heq | hlt
  · exact absurd hviolates (hj.first i hlt text htext)
  · exact heq
  · exact absurd hviolates' (hi.first j hlt text' htext')

theorem one_le_iff {n : UInt64} : 1 ≤ n ↔ n ≠ 0 := by
  rw [UInt64.le_iff_toNat_le, ← UInt64.pos_iff_ne_zero, UInt64.lt_iff_toNat_lt]
  rfl

namespace Requirement

variable {s : Sections} {fault : Fault}

theorem check_eq_none_iff {r : Requirement} : r.check s = none ↔ r.Holds s := by
  cases r with
  | connector => simp [check, Holds, ← isSome_options?_iff, ← Option.isSome_iff_ne_none]
  | span => simp [check, Holds, Duration.isZero, UInt64.pos_iff_ne_zero]
  | syntheticBuckets => simp [check, Holds, one_le_iff]
  | minBuckets => simp [check, Holds, one_le_iff]
  | syntheticField => simp [check, Holds, isIdentifier_iff]
  | candidates => simp [check, Holds]
  | candidateNames => simp [check, Holds, isBlankText_eq_false_iff]
  | candidateQuotes => simp [check, Holds, ← hasBacktick_iff]
  | scriptLanguage => simp [check, Holds, isBlankText_iff]
  | level => simp [check, Holds, isBlankText_iff]

theorem reports_of_check {r : Requirement} (h : r.check s = some fault) : r.Reports s fault := by
  cases r with
  | candidateNames =>
    obtain ⟨index, hfound, rfl⟩ := Option.map_eq_some_iff.mp h
    exact ⟨index, rfl, (findIdx?_eq_some_iff fun _ => isBlankText_iff).mp hfound⟩
  | candidateQuotes =>
    obtain ⟨index, hfound, rfl⟩ := Option.map_eq_some_iff.mp h
    exact ⟨index, rfl, (findIdx?_eq_some_iff fun _ => hasBacktick_iff).mp hfound⟩
  | _ =>
    rw [check, Option.ite_none_right_eq_some, Option.some.injEq] at h
    exact h.2.symm

/-- A violated requirement is reported in one way. -/
theorem Reports.eq {r : Requirement} {fault' : Fault} (h : r.Reports s fault)
    (h' : r.Reports s fault') : fault = fault' := by
  cases r with
  | candidateNames =>
    obtain ⟨i, rfl, hi⟩ := h
    obtain ⟨j, rfl, hj⟩ := h'
    rw [hi.eq hj]
  | candidateQuotes =>
    obtain ⟨i, rfl, hi⟩ := h
    obtain ⟨j, rfl, hj⟩ := h'
    rw [hi.eq hj]
  | _ => exact Eq.trans h (Eq.symm h')

/-- The message of a violated requirement starts with the entry that it is about. -/
theorem Reports.exists_message_eq {r : Requirement} (h : r.Reports s fault) :
    ∃ rest, fault.message = r.entry ++ rest := by
  cases r with
  | connector =>
    cases h
    have hfront : "condition.default_connector: " = connector.entry ++ ": " := by decide
    refine ⟨": " ++ Condition.Connector.unknownMessage s.condition.defaultConnector, ?_⟩
    rw [← String.append_assoc, ← hfront]
    rfl
  | syntheticField =>
    cases h
    have hfront : "preview.synthetic_field " = syntheticField.entry ++ " " := by decide
    refine ⟨" " ++ (Text.quoted s.preview.syntheticField ++
      (" must be an identifier " ++ "([A-Za-z_][A-Za-z0-9_]*)")), ?_⟩
    rw [← String.append_assoc, ← String.append_assoc, ← String.append_assoc, ← hfront]
    rfl
  | candidateNames =>
    obtain ⟨index, rfl, -⟩ := h
    have hfront : "preview.timestamp_candidates[" = candidateNames.entry ++ "[" := by decide
    refine ⟨"[" ++ (toString index ++ "] is blank"), ?_⟩
    rw [← String.append_assoc, ← String.append_assoc, ← hfront]
    rfl
  | candidateQuotes =>
    obtain ⟨index, rfl, -⟩ := h
    have hfront : "preview.timestamp_candidates[" = candidateQuotes.entry ++ "[" := by decide
    refine ⟨"[" ++ (toString index ++ "] contains a backtick"), ?_⟩
    rw [← String.append_assoc, ← String.append_assoc, ← hfront]
    rfl
  | span => exact ⟨" must be greater than zero", by cases h; decide⟩
  | syntheticBuckets => exact ⟨" must be at least 1", by cases h; decide⟩
  | minBuckets => exact ⟨" must be at least 1", by cases h; decide⟩
  | candidates => exact ⟨" must list at least one field", by cases h; decide⟩
  | scriptLanguage => exact ⟨" must not be empty", by cases h; decide⟩
  | level => exact ⟨" must not be empty", by cases h; decide⟩

theorem check_eq_some_iff {r : Requirement} :
    r.check s = some fault ↔ ¬ r.Holds s ∧ r.Reports s fault := by
  rw [← check_eq_none_iff]
  constructor
  · intro h
    exact ⟨by simp [h], reports_of_check h⟩
  · rintro ⟨hviolated, hreports⟩
    obtain ⟨fault', hfault'⟩ := Option.ne_none_iff_exists'.mp hviolated
    rw [hfault', (reports_of_check hfault').eq hreports]

/-- The requirements of previews. -/
def ofPreview : List Requirement :=
  [span, syntheticBuckets, minBuckets, syntheticField, candidates, candidateNames, candidateQuotes]

theorem findSome?_cons_eq_or {r : Requirement} {later : List Requirement} :
    (r :: later).findSome? (check s) = (r.check s).or (later.findSome? (check s)) := by
  rw [List.findSome?_cons]
  cases r.check s <;> rfl

theorem ite_some_none_or {p : Prop} [Decidable p] {rest? : Option Fault} :
    (if p then some fault else none).or rest? = if p then some fault else rest? := by
  split <;> rfl

theorem findSome?_check_ofPreview (s : Sections) :
    ofPreview.findSome? (check s) = s.preview.fault?.map .preview := by
  simp only [ofPreview, findSome?_cons_eq_or, List.findSome?_nil, check, ite_some_none_or,
    Option.or_none, Preview.Settings.fault?, Preview.Settings.candidatesFault?,
    apply_ite (Option.map Fault.preview), Option.map_some, Option.map_or, Option.map_map]
  rfl

end Requirement

/-! ### The first violation -/

variable {s : Sections} {fault : Fault}

theorem scriptLanguage_of_options? {c : Condition.Section} {options : Condition.Options}
    (h : c.options? = some options) : options.scriptLanguage = c.scriptLanguage := by
  obtain ⟨connector, -, rfl⟩ := Option.map_eq_some_iff.mp h
  rfl

/-- The checks run one after the other, up to the first fault. -/
theorem resolve_eq_error_iff_findSome? :
    s.resolve = .error fault ↔ Requirement.all.findSome? (Requirement.check s) = some fault := by
  have hall : Requirement.all =
      .connector :: (Requirement.ofPreview ++ [.scriptLanguage, .level]) := rfl
  rw [hall, Requirement.findSome?_cons_eq_or, List.findSome?_append,
    Requirement.findSome?_check_ofPreview, Sections.resolve]
  cases hcondition : s.condition.options? with
  | none => simp [Requirement.check, hcondition]
  | some condition =>
    cases hpreview : s.preview.fault? with
    | some previewFault => simp [Requirement.check, hcondition]
    | none =>
      have hlanguage := scriptLanguage_of_options? hcondition
      by_cases hblank : isBlankText s.condition.scriptLanguage
      · simp [Requirement.check, hcondition, hlanguage, hblank]
      by_cases hlevel : isBlankText s.logging.level
      · simp [Requirement.check, hcondition, hlanguage, hblank, hlevel]
      · simp [Requirement.check, hcondition, hlanguage, hblank, hlevel]

/-- The first requirement that the sections of a configuration violate, and what is reported of
    it. -/
structure FirstViolated (s : Sections) (r : Requirement) (fault : Fault) : Prop where
  earlier : ∃ earlier later, Requirement.all = earlier ++ r :: later ∧ ∀ q ∈ earlier, q.Holds s
  violated : ¬ r.Holds s
  reports : r.Reports s fault

theorem resolve_eq_error_iff : s.resolve = .error fault ↔ ∃ r, FirstViolated s r fault := by
  rw [resolve_eq_error_iff_findSome?, List.findSome?_eq_some_iff]
  simp only [Requirement.check_eq_some_iff, Requirement.check_eq_none_iff]
  constructor
  · rintro ⟨earlier, r, later, hsplit, ⟨hviolated, hreports⟩, hearlier⟩
    exact ⟨r, ⟨earlier, later, hsplit, hearlier⟩, hviolated, hreports⟩
  · rintro ⟨r, ⟨earlier, later, hsplit, hearlier⟩, hviolated, hreports⟩
    exact ⟨earlier, r, later, hsplit, ⟨hviolated, hreports⟩, hearlier⟩

theorem Requirement.mem_all (r : Requirement) : r ∈ all := by
  cases r <;> simp [all]

theorem exists_resolve_iff :
    (∃ settings, s.resolve = .ok settings) ↔ ∀ r : Requirement, r.Holds s := by
  have hnone : (∀ r : Requirement, r.Holds s) ↔
      Requirement.all.findSome? (Requirement.check s) = none := by
    rw [List.findSome?_eq_none_iff]
    simp only [Requirement.check_eq_none_iff, Requirement.mem_all, forall_const]
  rw [hnone, Option.eq_none_iff_forall_ne_some]
  simp only [ne_eq, ← resolve_eq_error_iff_findSome?]
  cases s.resolve with
  | error fault => simp
  | ok settings => simp

/-! ### Configuration texts -/

/-- What the settings of accepted sections are like. -/
structure Accepted (s : Sections) (settings : Settings) : Prop where
  preview : settings.preview = s.preview
  logging : settings.logging = s.logging
  /-- An empty gap policy stands for none. -/
  gapPolicy : settings.condition.gapPolicy? ≠ some ""
  plain : isPlainField settings.preview.syntheticField = true
  unquoted : fieldName settings.preview.syntheticField = settings.preview.syntheticField

theorem gapPolicy?_ne_of_options? {c : Condition.Section} {options : Condition.Options}
    (h : c.options? = some options) : options.gapPolicy? ≠ some "" := by
  obtain ⟨connector, -, rfl⟩ := Option.map_eq_some_iff.mp h
  intro hempty
  have hnonempty := (Option.filter_eq_some_iff.mp hempty).2
  cases hnonempty

theorem accepted_of_resolve {settings : Settings} (h : s.resolve = .ok settings) :
    Accepted s settings := by
  obtain ⟨hoptions, hfault, -, -, hpreview, hlogging⟩ := resolve_eq_ok_iff.mp h
  have hplain : isPlainField settings.preview.syntheticField = true := by
    obtain ⟨-, -, -, hidentifier, -⟩ := Preview.Settings.fault?_eq_none_iff.mp hfault
    rw [hpreview] at hidentifier
    exact Preview.isPlainField_iff.mpr (Preview.isPlain_of_isIdentifier hidentifier)
  exact ⟨hpreview.symm, hlogging.symm, gapPolicy?_ne_of_options? hoptions, hplain, if_pos hplain⟩

/-- A configuration text with sections is accepted just if they satisfy all requirements, and
    otherwise the first one that they violate is reported, by a message that starts with its
    entry. -/
theorem checked_ofText {text : String} {sections : Sections}
    (hsections : Sections.ofText? text = some sections) :
    ((∃ settings, ofText text = .ok settings) ↔ ∀ r : Requirement, r.Holds sections) ∧
      (∀ refusal, ofText text = .error refusal ↔
        ∃ r fault, refusal = .fault fault ∧ FirstViolated sections r fault) ∧
      (∀ r fault, FirstViolated sections r fault → ∃ rest, fault.message = r.entry ++ rest) ∧
      ∀ settings, ofText text = .ok settings → Accepted sections settings := by
  have htext : ofText text = sections.resolve.mapError .fault := by
    rw [ofText, hsections]
  rw [htext]
  refine ⟨?_, fun refusal => ?_, fun _ _ h => h.reports.exists_message_eq, fun settings h => ?_⟩
  · simp only [Outcome.mapError_eq_ok_iff, exists_resolve_iff]
  · rw [Outcome.mapError_eq_error_iff]
    simp only [resolve_eq_error_iff]
    constructor
    · rintro ⟨fault, ⟨r, hfirst⟩, rfl⟩
      exact ⟨r, fault, rfl, hfirst⟩
    · rintro ⟨r, fault, rfl, hfirst⟩
      exact ⟨fault, ⟨r, hfirst⟩, rfl⟩
  · exact accepted_of_resolve (Outcome.mapError_eq_ok_iff.mp h)

/-- A blank candidate is reported although one with a backtick stands before it. -/
theorem checked_ofText_blank_candidate :
    let text := "preview.timestamp_candidates = [\"a\x60\", \" \"]\nlogging.level = \"\""
    ∃ sections, Sections.ofText? text = some sections ∧
      ofText text = .error (.fault (.preview (.blankCandidate 1))) ∧
        FirstViolated sections .candidateNames (.preview (.blankCandidate 1)) := by
  intro text
  have hsome : (Sections.ofText? text).isSome := by decide +kernel
  obtain ⟨sections, hsections⟩ := Option.isSome_iff_exists.mp hsome
  have hunit : (ofText text).map (fun _ => ()) = .error (.fault (.preview (.blankCandidate 1))) := by
    decide +kernel
  have herror : ofText text = .error (.fault (.preview (.blankCandidate 1))) := by
    cases hresult : ofText text with
    | ok settings =>
      rw [hresult] at hunit
      cases hunit
    | error refusal =>
      rw [hresult] at hunit
      cases hunit
      rfl
  obtain ⟨r, fault, hfault, hfirst⟩ := ((checked_ofText hsections).2.1 _).mp herror
  cases hfault
  refine ⟨sections, hsections, herror, ?_⟩
  -- No other requirement reports a blank candidate.
  cases r with
  | candidateNames => exact hfirst
  | candidateQuotes =>
    obtain ⟨index, hindex, -⟩ := hfirst.reports
    cases hindex
  | _ => cases hfirst.reports

end TriggerCompose.Settings
