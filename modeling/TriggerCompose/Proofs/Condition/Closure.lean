import TriggerCompose.Proofs.Condition.Rewriting
import TriggerCompose.Proofs.SortedMap

/-!
# Selectors bind the variables of their scripts

A selector is built from one clause list in two ways: its bindings come from the fields of the
clauses, and its script from all of their tokens. Both name the same variables, also where
fields repeat or start with the mark of variables themselves.

## Main definitions

* `Condition.IsFieldToken`: a token at the place of a field.
* `Condition.Selector.Closed`: a selector that binds the variables of its script.

## Main statements

* `Condition.isFieldToken_iff_of_compile`: the tokens at the places of fields.
* `Condition.get?_bindings`: what is bound.
* `Condition.build_closed`: selectors of clause lists are closed.
-/

namespace TriggerCompose.Condition

/-! ### Variables of scripts -/

/-- A token at the place of a field: the first of a script, or one that comes a multiple of
    four after it. -/
def IsFieldToken (source token : String) : Prop :=
  ∃ index, (tokens source)[4 * index]? = some token

theorem getElem?_scriptWords_field (fallback : Connector) (clauses : List Clause) (index : Nat) :
    (scriptWords fallback clauses)[4 * index]? =
      clauses[index]?.map fun c => variableMark ++ c.field := by
  have hplace := getElem?_scriptWords fallback clauses index (Nat.zero_lt_succ 2)
  rw [Nat.add_zero] at hplace
  rw [hplace]
  cases clauses[index]? <;> rfl

theorem isFieldToken_iff_of_compile {clauses : List Clause} {written : Connector}
    {script token : String} (hscript : compile clauses written = .ok script) :
    IsFieldToken script token ↔ ∃ field ∈ clauses.map (·.field), token = variableMark ++ field := by
  simp only [IsFieldToken, tokens_of_compile hscript, getElem?_scriptWords_field,
    Option.map_eq_some_iff, List.mem_map]
  constructor
  · rintro ⟨index, c, hc, rfl⟩
    exact ⟨c.field, ⟨c, List.mem_of_getElem? hc, rfl⟩, rfl⟩
  · rintro ⟨_, ⟨c, hc, rfl⟩, rfl⟩
    obtain ⟨index, hindex⟩ := List.mem_iff_getElem?.mp hc
    exact ⟨index, c, hindex, rfl⟩

/-! ### Bindings -/

theorem lookup_map_self (fields : List String) (key : String) :
    (fields.map fun f => (f, f)).lookup key = if key ∈ fields then some key else none := by
  induction fields with
  | nil => rfl
  | cons field fields ih =>
    rw [List.map_cons, SortedMap.lookup_cons_eq_ite, ih]
    by_cases hkey : key = field
    · simp [hkey]
    · simp [hkey]

/-- Every field is bound to itself, and nothing else is bound. -/
theorem get?_bindings (clauses : List Clause) (key : String) :
    (bindings clauses).get? key = if key ∈ clauses.map (·.field) then some key else none := by
  rw [bindings_eq_ofList, SortedMap.get?_ofList, ← List.map_reverse, lookup_map_self]
  simp only [List.mem_reverse]

theorem mem_keys_bindings {clauses : List Clause} {key : String} :
    key ∈ (bindings clauses).keys ↔ key ∈ clauses.map (·.field) := by
  rw [SortedMap.mem_keys_iff, get?_bindings]
  by_cases hkey : key ∈ clauses.map (·.field)
  · simp [hkey]
  · simp [hkey]

/-! ### Selectors -/

/-- A selector that binds the variables of its script and nothing else. -/
structure Selector.Closed (s : Selector) : Prop where
  /-- The keys are the fields of the clauses that the script is read as. -/
  fields : ∀ fallback key,
    key ∈ s.bucketsPath.keys ↔ key ∈ (decompile s.script.source fallback).map (·.field)
  itself : ∀ key path, s.bucketsPath.get? key = some path → path = key
  /-- No variable is unbound and no binding is unused. -/
  bound : ∀ token, IsFieldToken s.script.source token ↔
    ∃ key ∈ s.bucketsPath.keys, token = variableMark ++ key

theorem build_eq_error_iff {clauses : List Clause} {options : Options} {e : ScriptError} :
    build clauses options = .error e ↔ compile clauses options.defaultConnector = .error e := by
  rw [build, Outcome.bind_eq_error_iff]
  constructor
  · rintro (hcompile | ⟨_, -, hpure⟩)
    · exact hcompile
    · cases hpure
  · exact .inl

theorem closed_of_build {clauses : List Clause} {options : Options} {s : Selector}
    (hs : build clauses options = .ok s) : s.Closed where
  fields fallback key := by
    obtain ⟨hscript, hbindings, -⟩ := build_eq_ok_iff.mp hs
    rw [hbindings, mem_keys_bindings, decompile_of_compile hscript, map_field_reread]
  itself key path hpath := by
    obtain ⟨-, hbindings, -⟩ := build_eq_ok_iff.mp hs
    rw [hbindings, get?_bindings] at hpath
    split at hpath
    · exact (Option.some.inj hpath).symm
    · cases hpath
  bound token := by
    obtain ⟨hscript, hbindings, -⟩ := build_eq_ok_iff.mp hs
    simp only [hbindings, mem_keys_bindings, isFieldToken_iff_of_compile hscript]

/-- A clause list has a selector when it has a script, and fails with the same error when it
    has none. The selector is closed, its keys are the fields of the list, and its form shows
    everything in it unchanged. -/
theorem build_closed (clauses : List Clause) (options : Options) :
    (∀ e, build clauses options = .error e ↔
        compile clauses options.defaultConnector = .error e) ∧
      ∀ s, build clauses options = .ok s → s.Closed ∧
        (∀ key, key ∈ s.bucketsPath.keys ↔ key ∈ clauses.map (·.field)) ∧
        ∀ fallback, s.form fallback =
          { clauses := decompile s.script.source fallback, bucketsPath := s.bucketsPath,
            parentBucketPath := s.parentBucketPath, script := s.script,
            gapPolicy? := s.gapPolicy? } := by
  refine ⟨fun e => build_eq_error_iff, fun s hs => ⟨closed_of_build hs, ?_, fun _ => rfl⟩⟩
  intro key
  obtain ⟨-, hbindings, -⟩ := build_eq_ok_iff.mp hs
  rw [hbindings, mem_keys_bindings]

/-- A field that repeats is bound once, and one that starts with the mark keeps it. -/
theorem build_closed_marked :
    let clauses : List Clause :=
      [⟨none, "x", some .above, some (.text "high")⟩,
        ⟨some .or, "params.x", some .below, some (.text "low")⟩,
        ⟨none, "x", some .exactly, some (.text "none")⟩]
    ∃ s, build clauses .standard = .ok s ∧
      s.script.source = "params.x > high || params.params.x < low && params.x == none" ∧
        s.bucketsPath.keys = ["params.x", "x"] ∧ s.Closed := by
  intro clauses
  have hbuild : build clauses .standard = .ok
      ⟨bindings clauses, "composite_agg",
        ⟨"params.x > high || params.params.x < low && params.x == none", "painless"⟩,
        some "skip"⟩ :=
    build_eq_ok_iff.mpr ⟨by decide +kernel, rfl, rfl, rfl, rfl⟩
  exact ⟨_, hbuild, rfl, by decide +kernel, ((build_closed clauses .standard).2 _ hbuild).1⟩

end TriggerCompose.Condition
