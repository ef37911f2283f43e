import TriggerCompose.Condition.Selector
import TriggerCompose.Proofs.Condition.RoundTrip

/-!
# Scripts written again

A script that was written, read and written again differs from the first in the texts of
its numerals only: a threshold that was given as text is written again as the number that it
denotes. Fields and bindings stay as they are.

## Main definitions

* `Condition.Threshold.IsDisplayed`: a threshold that is written the way it is shown.

## Main statements

* `Condition.build_eq_ok_iff`: the selector of a clause list.
* `Condition.compile_reread`: a list that was read back has a script.
* `Condition.scriptWords_reread_eq_iff`: which scripts are written again as they were.
-/

namespace TriggerCompose.Condition

open Text (IsWord)

/-! ### Selectors -/

theorem build_eq_ok_iff {clauses : List Clause} {options : Options} {s : Selector} :
    build clauses options = .ok s ↔
      compile clauses options.defaultConnector = .ok s.script.source ∧
        s.bucketsPath = bindings clauses ∧ s.parentBucketPath = options.parentBucketPath ∧
          s.script.language = options.scriptLanguage ∧ s.gapPolicy? = options.gapPolicy? := by
  simp only [build, Outcome.bind_eq_ok_iff, Outcome.pure_eq_ok_iff]
  constructor
  · rintro ⟨source, hsource, rfl⟩
    exact ⟨hsource, rfl, rfl, rfl, rfl⟩
  · rintro ⟨hsource, hbindings, hpath, hlanguage, hgap⟩
    obtain ⟨bucketsPath, parentBucketPath, ⟨source, language⟩, gapPolicy?⟩ := s
    cases hbindings
    cases hpath
    cases hlanguage
    cases hgap
    exact ⟨source, hsource, rfl⟩

theorem map_field_reread (fallback : Connector) (clauses : List Clause) :
    (reread fallback clauses).map (·.field) = clauses.map (·.field) := by
  cases clauses with
  | nil => rfl
  | cons anchor later => simp [reread, Clause.reread, Function.comp_def]

theorem bindings_eq_ofList (clauses : List Clause) :
    bindings clauses = SortedMap.ofList ((clauses.map (·.field)).map fun f => (f, f)) := by
  rw [bindings, List.map_map]
  rfl

/-- The bindings depend on the fields alone. -/
theorem bindings_reread (fallback : Connector) (clauses : List Clause) :
    bindings (reread fallback clauses) = bindings clauses := by
  rw [bindings_eq_ofList, bindings_eq_ofList, map_field_reread]

/-! ### Writable clauses stay writable -/

theorem Threshold.Writable.reread {t : Threshold} (ht : t.Writable) : t.reread.Writable := by
  cases t with
  | number x => exact ht
  | text s =>
    rw [Threshold.reread, ofToken]
    split
    next x _ => exact ⟨x, rfl⟩
    next => exact ht

theorem Clause.Writable.reread {c : Clause} (hc : c.Writable) (connector? : Option Connector) :
    (c.reread connector?).Writable where
  field := hc.field
  comparison := hc.comparison
  threshold := by
    obtain ⟨t, ht, hwritable⟩ := hc.threshold
    exact ⟨t.reread, by rw [Clause.reread, ht, Option.map_some], hwritable.reread⟩

theorem writable_of_mem_reread {fallback : Connector} {clauses : List Clause}
    (hclauses : ∀ c ∈ clauses, c.Writable) : ∀ c ∈ reread fallback clauses, c.Writable := by
  cases clauses with
  | nil => exact hclauses
  | cons anchor later =>
    intro c hc
    rw [reread, List.mem_cons, List.mem_map] at hc
    rcases hc with rfl | ⟨d, hd, rfl⟩
    · exact (hclauses anchor List.mem_cons_self).reread none
    · exact (hclauses d (List.mem_cons_of_mem _ hd)).reread _

/-- A list that was read back has a script. -/
theorem compile_reread {clauses : List Clause} {fallback : Connector} {script : String}
    (hscript : compile clauses fallback = .ok script) :
    compile (reread fallback clauses) fallback =
      .ok (" ".intercalate (scriptWords fallback (reread fallback clauses))) :=
  compile_eq_ok_iff.mpr ⟨writable_of_mem_reread (compile_eq_ok_iff.mp hscript).1, rfl⟩

/-! ### The same tokens -/

/-- A threshold that is written the way it is shown: a text that denotes a finite number is
    the text that the number is shown as. -/
def Threshold.IsDisplayed : Threshold → Prop
  | .number _ => True
  | .text s => ∀ x, Double.ofText? s.toList = some (.finite x) →
      s = String.ofList (Double.finite x).display

theorem Threshold.display_reread_eq_iff (t : Threshold) :
    t.reread.display = t.display ↔ t.IsDisplayed := by
  cases t with
  | number x => exact iff_of_true rfl trivial
  | text s =>
    by_cases hplain : IsPlain s
    · refine iff_of_true ?_ fun x hx => absurd hx (hplain x)
      rw [Threshold.reread, Threshold.ofToken_eq_text_iff.mpr hplain]
    · simp only [IsPlain, ne_eq, not_forall, not_not] at hplain
      obtain ⟨x, hx⟩ := hplain
      have hdisplay : (ofToken s).display = String.ofList (Double.finite x).display := by
        rw [ofToken_of_numeral hx]
        rfl
      simp only [Threshold.reread, hdisplay, IsDisplayed, hx, Option.some.injEq, Double.finite.injEq,
        forall_eq']
      exact eq_comm

theorem Clause.words_reread_eq_iff {c : Clause} (connector? : Option Connector) :
    (c.reread connector?).words = c.words ↔ ∀ t, c.threshold? = some t → t.IsDisplayed := by
  cases ht : c.threshold? with
  | none => simp [words, reread, ht]
  | some t => simp [words, reread, ht, Threshold.display_reread_eq_iff]

theorem Clause.laterWords_reread_eq_iff {c : Clause} (fallback : Connector) :
    (c.reread (some (c.connector?.getD fallback))).laterWords fallback = c.laterWords fallback ↔
      ∀ t, c.threshold? = some t → t.IsDisplayed := by
  rw [laterWords, laterWords, List.cons.injEq, Clause.words_reread_eq_iff]
  exact and_iff_right rfl

/-- A script is written again as it was just if every text in it that denotes a finite number is
    the text that the number is shown as. -/
theorem scriptWords_reread_eq_iff (fallback : Connector) (clauses : List Clause) :
    scriptWords fallback (reread fallback clauses) = scriptWords fallback clauses ↔
      ∀ c ∈ clauses, ∀ t, c.threshold? = some t → t.IsDisplayed := by
  cases clauses with
  | nil => simp [reread]
  | cons anchor later =>
    -- Equal scripts fall into equal groups, so clauses can be compared one by one.
    have hgroups : ∀ a b : List Clause, scriptWords fallback (anchor.reread none :: a) =
        scriptWords fallback (anchor :: b) ↔ (anchor.reread none).words = anchor.words ∧
          a.map (Clause.laterWords fallback) = b.map (Clause.laterWords fallback) := by
      intro a b
      constructor
      · intro h
        have hregroup := congrArg regroup h
        rw [regroup_scriptWords, regroup_scriptWords, List.cons.injEq] at hregroup
        exact hregroup
      · rintro ⟨hanchor, hlater⟩
        rw [scriptWords, scriptWords, hanchor, List.flatMap_def, List.flatMap_def, hlater]
    rw [reread, hgroups, Clause.words_reread_eq_iff, List.map_map, List.map_inj_left,
      List.forall_mem_cons]
    simp only [Function.comp_apply, Clause.laterWords_reread_eq_iff]

end TriggerCompose.Condition
