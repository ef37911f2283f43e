import TriggerCompose.Proofs.Outcome
import TriggerCompose.Settings.Basic

/-!
# What accepted configurations satisfy

A configuration text gives settings only if its sections satisfy every requirement, so
whoever holds settings of a text may rely on all of them.

## Main statements

* `Preview.Settings.fault?_eq_none_iff`, `Preview.Settings.candidatesFault?_eq_none_iff`: the
  requirements of previews, one by one.
* `Settings.resolve_eq_ok_iff`: the settings of sections.
* `Settings.fault?_preview_of_ofText`: settings of a text satisfy the requirements.
* `Settings.ofText_empty`: the empty configuration.
-/

namespace TriggerCompose

namespace Preview.Settings

/-- A check that reports a fault passes when its condition fails and the rest passes. -/
theorem ite_some_eq_none_iff {p : Prop} [Decidable p] {fault : Fault} {rest? : Option Fault} :
    (if p then some fault else rest?) = none ↔ ¬ p ∧ rest? = none := by
  by_cases hp : p
  · simp [hp]
  · simp [hp]

theorem fault?_eq_none_iff {s : Preview.Settings} :
    s.fault? = none ↔ s.span.isZero = false ∧ s.syntheticBuckets ≠ 0 ∧ s.minBuckets ≠ 0 ∧
      isIdentifier s.syntheticField = true ∧ candidatesFault? s.timestampCandidates = none := by
  simp only [fault?, ite_some_eq_none_iff, Bool.not_eq_true, Bool.not_eq_true',
    Bool.not_eq_false, ne_eq]

theorem candidatesFault?_eq_none_iff {candidates : List String} :
    candidatesFault? candidates = none ↔ candidates ≠ [] ∧
      (∀ c ∈ candidates, Text.isBlankText c = false) ∧ ∀ c ∈ candidates, hasBacktick c = false := by
  simp only [candidatesFault?, ite_some_eq_none_iff, List.isEmpty_iff, Option.or_eq_none_iff,
    Option.map_eq_none_iff, List.findIdx?_eq_none_iff, ne_eq]

end Preview.Settings

namespace Settings

theorem resolve_eq_ok_iff {s : Sections} {settings : Settings} :
    s.resolve = .ok settings ↔
      s.condition.options? = some settings.condition ∧ s.preview.fault? = none ∧
        Text.isBlankText settings.condition.scriptLanguage = false ∧
          Text.isBlankText s.logging.level = false ∧
            s.preview = settings.preview ∧ s.logging = settings.logging := by
  cases hcondition : s.condition.options? with
  | none => simp [Sections.resolve, hcondition]
  | some condition =>
    cases hpreview : s.preview.fault? with
    | some fault => simp [Sections.resolve, hcondition, hpreview]
    | none =>
      obtain ⟨condition', preview, logging⟩ := settings
      simp only [Sections.resolve, hcondition, hpreview, true_and, Option.some.injEq]
      by_cases hlanguage : Text.isBlankText condition.scriptLanguage
      · rw [if_pos hlanguage]
        grind
      by_cases hlevel : Text.isBlankText s.logging.level
      · rw [if_neg hlanguage, if_pos hlevel]
        grind
      · rw [if_neg hlanguage, if_neg hlevel]
        grind

theorem ofText_eq_ok_iff {text : String} {settings : Settings} :
    ofText text = .ok settings ↔
      ∃ sections, Sections.ofText? text = some sections ∧ sections.resolve = .ok settings := by
  rw [ofText]
  cases Sections.ofText? text with
  | none => simp
  | some sections => simp [Outcome.mapError_eq_ok_iff]

/-- The settings of a text satisfy the requirements of previews. -/
theorem fault?_preview_of_ofText {text : String} {settings : Settings}
    (h : ofText text = .ok settings) : settings.preview.fault? = none := by
  obtain ⟨sections, -, hresolve⟩ := ofText_eq_ok_iff.mp h
  obtain ⟨-, hfault, -, -, hpreview, -⟩ := resolve_eq_ok_iff.mp hresolve
  rwa [← hpreview]

/-- The empty configuration gives the standard settings. -/
theorem ofText_empty : ofText "" = .ok .standard := by
  have hsections : Sections.ofText? "" = some ⟨.standard, .standard, .standard⟩ := rfl
  refine ofText_eq_ok_iff.mpr ⟨_, hsections, resolve_eq_ok_iff.mpr ?_⟩
  exact ⟨by decide, by decide, by decide, by decide, rfl, rfl⟩

end Settings

end TriggerCompose
