import TriggerCompose.Proofs.Condition.Script

/-!
# Defects of clause lists

A clause list is refused for the first clause that cannot be written, and that clause for the
first of its field, its comparison and its threshold that cannot. A list without such a
clause is written token by token, each at the place that its clause gives it.

## Main definitions

* `Condition.Clause.FirstDefect`: the first defect of a clause, and the reason it stands for.
* `Condition.Reported`: the error of a clause list.
* `Condition.Written`: the script of a clause list.

## Main statements

* `Condition.Clause.firstDefect_iff`: a clause is refused for its first defect.
* `Condition.reported_compile`: the outcome for a clause list.
-/

namespace TriggerCompose.Condition

open Text (IsWord isBlank hasBlank)

/-! ### Defects of a clause -/

/-- Why a field is no token: it is missing, or it is more than one word. -/
inductive FieldDefect (field : String) : Defect → Failure.Reason → Prop where
  | empty (h : field = "") : FieldDefect field .missingField .incompleteClause
  | blank (h : ∃ c ∈ field.toList, isBlank c) :
      FieldDefect field (.blankInField field) .scriptToken

/-- Why a threshold is no token: it is missing or empty, no finite number, or more than one
    word. -/
inductive ThresholdDefect : Option Threshold → Defect → Failure.Reason → Prop where
  | missing : ThresholdDefect none .missingThreshold .incompleteClause
  | infinite (x : Double) (h : ∀ y, x ≠ .finite y) :
      ThresholdDefect (some (.number x)) (.infiniteThreshold x) .scriptToken
  | empty : ThresholdDefect (some (.text "")) .emptyThreshold .incompleteClause
  | blank (s : String) (h : ∃ c ∈ s.toList, isBlank c) :
      ThresholdDefect (some (.text s)) (.blankInThreshold s) .scriptToken

/-- The first defect of a clause: what is wrong with the field, or with the comparison where
    the field is right, or with the threshold where both are. -/
inductive Clause.FirstDefect (c : Clause) : Defect → Failure.Reason → Prop where
  | field {defect : Defect} {reason : Failure.Reason} (h : FieldDefect c.field defect reason) :
      c.FirstDefect defect reason
  | comparison (hfield : IsWord c.field) (h : c.comparison? = none) :
      c.FirstDefect .missingComparison .incompleteClause
  | threshold {defect : Defect} {reason : Failure.Reason} (hfield : IsWord c.field)
      (hcomparison : c.comparison? ≠ none) (h : ThresholdDefect c.threshold? defect reason) :
      c.FirstDefect defect reason

/-- A text with a blank is not empty, so the two tests never both hold. -/
theorem hasBlank_and_not_isEmpty {s : String} (h : ∃ c ∈ s.toList, isBlank c) :
    hasBlank s ∧ ¬ s.isEmpty := by
  refine ⟨List.any_eq_true.mpr h, fun hempty => ?_⟩
  obtain ⟨c, hc, -⟩ := h
  rw [String.isEmpty_iff.mp hempty] at hc
  cases hc

theorem fieldDefect_iff {field : String} {defect : Defect} {reason : Failure.Reason} :
    FieldDefect field defect reason ↔
      fieldToken field = .error defect ∧ defect.reason = reason := by
  rw [fieldToken]
  constructor
  · rintro (rfl | hblank)
    · exact ⟨rfl, rfl⟩
    · obtain ⟨hblank, hne⟩ := hasBlank_and_not_isEmpty hblank
      rw [if_neg hne, if_pos hblank]
      exact ⟨rfl, rfl⟩
  · rintro ⟨herror, rfl⟩
    split at herror
    next hempty =>
      cases herror
      exact .empty (String.isEmpty_iff.mp hempty)
    next =>
      split at herror
      next hblank =>
        cases herror
        exact .blank (List.any_eq_true.mp hblank)
      next => cases herror

theorem thresholdDefect_iff {threshold? : Option Threshold} {defect : Defect}
    {reason : Failure.Reason} :
    ThresholdDefect threshold? defect reason ↔
      thresholdToken threshold? = .error defect ∧ defect.reason = reason := by
  constructor
  · intro h
    cases h with
    | missing => exact ⟨rfl, rfl⟩
    | infinite x hinfinite =>
      cases x with
      | finite y => exact absurd rfl (hinfinite y)
      | nan => exact ⟨rfl, rfl⟩
      | infinite negative => exact ⟨rfl, rfl⟩
    | empty => exact ⟨rfl, rfl⟩
    | blank s hblank =>
      obtain ⟨hblank, hne⟩ := hasBlank_and_not_isEmpty hblank
      rw [thresholdToken, if_neg hne, if_pos hblank]
      exact ⟨rfl, rfl⟩
  · rintro ⟨herror, rfl⟩
    cases threshold? with
    | none =>
      cases herror
      exact .missing
    | some t =>
      cases t with
      | number x =>
        cases x with
        | finite y => cases herror
        | nan =>
          cases herror
          exact .infinite .nan (by simp)
        | infinite negative =>
          cases herror
          exact .infinite (.infinite negative) (by simp)
      | text s =>
        rw [thresholdToken] at herror
        split at herror
        next hempty =>
          cases herror
          rw [String.isEmpty_iff.mp hempty]
          exact .empty
        next =>
          split at herror
          next hblank =>
            cases herror
            exact .blank s (List.any_eq_true.mp hblank)
          next => cases herror

theorem comparisonToken_eq_error_iff {comparison? : Option Comparison} {defect : Defect} :
    comparisonToken comparison? = .error defect ↔
      comparison? = none ∧ defect = .missingComparison := by
  cases comparison? with
  | none => simp [comparisonToken, eq_comm]
  | some comparison => simp [comparisonToken]

/-- A clause is refused for its first defect. -/
theorem Clause.firstDefect_iff {c : Clause} {defect : Defect} {reason : Failure.Reason} :
    c.FirstDefect defect reason ↔ c.operands = .error defect ∧ defect.reason = reason := by
  simp only [operands, Outcome.bind_eq_error_iff, fieldToken_eq_ok_iff, comparisonToken_eq_ok_iff,
    comparisonToken_eq_error_iff]
  constructor
  · intro h
    cases h with
    | field h =>
      obtain ⟨herror, hreason⟩ := fieldDefect_iff.mp h
      exact ⟨.inl herror, hreason⟩
    | comparison hfield h => exact ⟨.inr ⟨_, ⟨hfield, rfl⟩, .inl ⟨h, rfl⟩⟩, rfl⟩
    | threshold hfield hcomparison h =>
      obtain ⟨herror, hreason⟩ := thresholdDefect_iff.mp h
      have hsome := Option.ne_none_iff_exists'.mp hcomparison
      exact ⟨.inr ⟨_, ⟨hfield, rfl⟩, .inr ⟨_, ⟨hsome, rfl⟩, .inl herror⟩⟩, hreason⟩
  · rintro ⟨hfield | ⟨_, ⟨hword, rfl⟩, ⟨hnone, rfl⟩ | ⟨_, ⟨⟨comparison, hsome⟩, rfl⟩,
      hthreshold | ⟨_, -, hpure⟩⟩⟩, hreason⟩
    · exact .field (fieldDefect_iff.mpr ⟨hfield, hreason⟩)
    · cases hreason
      exact .comparison hword hnone
    · have hcomparison : c.comparison? ≠ none := by
        rw [hsome]
        exact Option.some_ne_none comparison
      exact .threshold hword hcomparison (thresholdDefect_iff.mpr ⟨hthreshold, hreason⟩)
    · cases hpure

/-! ### Outcomes of clause lists -/

/-- The error that a clause list is refused with: the place of the first clause with a defect,
    that defect, and the reason and the detail that are reported for them. -/
def Reported (clauses : List Clause) (e : ScriptError) : Prop :=
  ∃ earlier c later, clauses = earlier ++ c :: later ∧ (∀ b ∈ earlier, b.Writable) ∧
    c.FirstDefect e.defect e.failure.reason ∧ e.index = earlier.length ∧
      e.failure.detail = s!"clause {earlier.length}: {e.defect.description}"

theorem compile_eq_error_iff_reported {clauses : List Clause} {fallback : Connector}
    {e : ScriptError} : compile clauses fallback = .error e ↔ Reported clauses e := by
  rw [compile_eq_error_iff]
  constructor
  · rintro ⟨earlier, c, later, hsplit, hearlier, hdefect, hindex⟩
    refine ⟨earlier, c, later, hsplit, hearlier, Clause.firstDefect_iff.mpr ⟨hdefect, rfl⟩,
      hindex, ?_⟩
    rw [← hindex]
    rfl
  · rintro ⟨earlier, c, later, hsplit, hearlier, hdefect, hindex, -⟩
    exact ⟨earlier, c, later, hsplit, hearlier, (Clause.firstDefect_iff.mp hdefect).1, hindex⟩

/-- The script of a clause list: words with single spaces between them, four for each clause
    but the anchor, which has no connector. -/
structure Written (fallback : Connector) (clauses : List Clause) (script : String) : Prop where
  spaced : script = " ".intercalate (tokens script)
  length : (tokens script).length = 4 * clauses.length - 1
  connector : ∀ index c, clauses[index + 1]? = some c →
    (tokens script)[4 * index + 3]? = some (c.connector?.getD fallback).symbol
  field : ∀ index c, clauses[index]? = some c →
    (tokens script)[4 * index]? = some ("params." ++ c.field)
  comparison : ∀ index c comparison, clauses[index]? = some c → c.comparison? = some comparison →
    (tokens script)[4 * index + 1]? = some comparison.symbol
  threshold : ∀ index c threshold, clauses[index]? = some c → c.threshold? = some threshold →
    (tokens script)[4 * index + 2]? = some threshold.display

theorem written_of_compile {clauses : List Clause} {fallback : Connector} {script : String}
    (hscript : compile clauses fallback = .ok script) : Written fallback clauses script := by
  have htokens := tokens_of_compile hscript
  have hplace : ∀ {index c}, clauses[index]? = some c → ∀ {place}, place < 3 →
      (tokens script)[4 * index + place]? = c.words[place]? := by
    intro index c hc place hplace
    rw [htokens, getElem?_scriptWords fallback clauses index hplace, hc, Option.bind_some]
  exact
    { spaced := by rw [htokens]; exact (compile_eq_ok_iff.mp hscript).2
      length := by rw [htokens, length_scriptWords]
      connector := by
        intro index c hc
        rw [htokens, getElem?_scriptWords_connector, hc, Option.map_some]
      field := by
        intro index c hc
        exact hplace hc (Nat.zero_lt_succ 2)
      comparison := by
        intro index c comparison hc hcomparison
        rw [hplace hc (by decide), Clause.words, hcomparison]
        rfl
      threshold := by
        intro index c threshold hc hthreshold
        rw [hplace hc (by decide), Clause.words, hthreshold]
        rfl }

/-- A clause list has a script if each of its clauses is complete and of words and finite
    numbers, and the script holds what the clauses say in their order. Any other list is refused
    for its first defect, read from the first clause on. -/
theorem reported_compile (clauses : List Clause) (fallback : Connector) :
    ((∃ script, compile clauses fallback = .ok script) ↔ ∀ c ∈ clauses, c.Writable) ∧
      (∀ e, compile clauses fallback = .error e ↔ Reported clauses e) ∧
      ∀ script, compile clauses fallback = .ok script → Written fallback clauses script := by
  refine ⟨?_, fun e => compile_eq_error_iff_reported, fun script => written_of_compile⟩
  constructor
  · rintro ⟨script, hscript⟩
    exact (compile_eq_ok_iff.mp hscript).1
  · intro hclauses
    exact ⟨_, compile_eq_ok_iff.mpr ⟨hclauses, rfl⟩⟩

/-- Of three defects in two clauses the first one is reported. -/
theorem reported_compile_blank_field :
    let clauses : List Clause :=
      [⟨none, "load", some .above, some (.text "high")⟩, ⟨some .or, "disk use", none, none⟩,
        ⟨none, "", some .below, some (.text "low")⟩]
    let e : ScriptError := ⟨1, .blankInField "disk use"⟩
    compile clauses .and = .error e ∧ Reported clauses e := by
  intro clauses e
  have herror : compile clauses .and = .error e := by decide
  exact ⟨herror, ((reported_compile clauses .and).2.1 e).mp herror⟩

end TriggerCompose.Condition
