import TriggerCompose.Condition.Script
import TriggerCompose.Proofs.Number.Display
import TriggerCompose.Proofs.Outcome
import TriggerCompose.Proofs.Text.Words
import Mathlib.Data.List.Basic

/-!
# Tokens of scripts

Every token that writing a clause list puts into a script is one word, so splitting the
script gives the tokens back, and they fall into the same groups: three for the
anchor and four for each later clause.

## Main definitions

* `Condition.Clause.Writable`: a clause that a script can hold.
* `Condition.scriptWords`: the tokens of a clause list.
* `Condition.reread`: a clause list as it is read back.

## Main statements

* `Condition.compile_eq_ok_iff`: which clause lists have a script, and which script.
* `Condition.compile_eq_error_iff`: which clause is at fault where there is none.
* `Condition.tokens_of_compile`: the tokens of that script.
* `Condition.getElem?_scriptWords`: the places of the tokens.
* `Condition.decompile_of_compile`: what that script is read as.
-/

namespace TriggerCompose.Condition

open Text (IsWord hasBlank)

/-! ### Tokens -/

theorem isWord_of_mem_tokens {source token : String} (htoken : token ∈ tokens source) :
    IsWord token := by
  obtain ⟨w, hw, rfl⟩ := List.mem_map.mp htoken
  exact Text.isWord_of_mem_words hw

/-- Tokens in a row are split into the same tokens, whatever blank characters separate them. -/
theorem tokens_of_spaced {ts : List String} {text : String} (htext : Text.Spaced ts text)
    (hts : ∀ t ∈ ts, IsWord t) : tokens text = ts := by
  rw [tokens, Text.words_of_spaced htext hts, List.map_map]
  simp

theorem tokens_intercalate {ts : List String} (hts : ∀ t ∈ ts, IsWord t) :
    tokens (" ".intercalate ts) = ts :=
  tokens_of_spaced (Text.spaced_intercalate (by decide) (by decide) ts) hts

@[simp] theorem Connector.ofSymbol?_symbol (c : Connector) : ofSymbol? c.symbol = some c := by
  cases c <;> decide

@[simp] theorem Comparison.ofSymbol?_symbol (c : Comparison) : ofSymbol? c.symbol = some c := by
  cases c <;> decide

theorem Comparison.isWord_symbol (c : Comparison) : IsWord c.symbol := by
  cases c <;> decide

theorem Connector.isWord_symbol (c : Connector) : IsWord c.symbol := by
  cases c <;> decide

/-- Only the mark that writing put in front is removed, also from a field that starts
    with one of its own. -/
theorem fieldOfToken_append (field : String) : fieldOfToken (variableMark ++ field) = field := by
  have hread :
      variableMark.toList.isPrefixOf? (variableMark ++ field).toList = some field.toList := by
    rw [List.isPrefixOf?_eq_some_iff_append_eq, String.toList_append]
  rw [fieldOfToken, hread]
  exact String.ofList_toList

/-! ### Clauses that a script can hold -/

/-- A threshold that one token can hold: a finite number, or a word. -/
def Threshold.Writable : Threshold → Prop
  | .number x => ∃ y, x = .finite y
  | .text s => IsWord s

/-- A clause with all three operands, each of which one token can hold. -/
structure Clause.Writable (c : Clause) : Prop where
  field : IsWord c.field
  comparison : ∃ comparison, c.comparison? = some comparison
  threshold : ∃ t, c.threshold? = some t ∧ t.Writable

/-- The operand tokens of a clause. An absent operand is the empty string here; no
    script of such a clause exists. -/
def Clause.words (c : Clause) : List String :=
  [variableMark ++ c.field, (c.comparison?.map Comparison.symbol).getD "",
    (c.threshold?.map Threshold.display).getD ""]

/-- The tokens of a clause after the anchor. -/
def Clause.laterWords (fallback : Connector) (c : Clause) : List String :=
  (c.connector?.getD fallback).symbol :: c.words

/-- The tokens of a clause list. -/
def scriptWords (fallback : Connector) : List Clause → List String
  | [] => []
  | anchor :: later => anchor.words ++ later.flatMap (Clause.laterWords fallback)

theorem fieldToken_eq_ok_iff {field token : String} :
    fieldToken field = .ok token ↔ IsWord field ∧ token = variableMark ++ field := by
  rw [fieldToken]
  split
  next hempty => simp_all [IsWord]
  next hne =>
    split
    next hblank => simp_all [IsWord]
    next hblank =>
      have hword : IsWord field := ⟨by simpa using hne, by simpa using hblank⟩
      simp [hword, eq_comm]

theorem comparisonToken_eq_ok_iff {comparison? : Option Comparison} {token : String} :
    comparisonToken comparison? = .ok token ↔
      (∃ c, comparison? = some c) ∧ token = (comparison?.map Comparison.symbol).getD "" := by
  cases comparison? with
  | none => simp [comparisonToken]
  | some c => simp [comparisonToken, eq_comm]

theorem thresholdToken_eq_ok_iff {threshold? : Option Threshold} {token : String} :
    thresholdToken threshold? = .ok token ↔
      (∃ t, threshold? = some t ∧ t.Writable) ∧
        token = (threshold?.map Threshold.display).getD "" := by
  cases threshold? with
  | none => simp [thresholdToken]
  | some t =>
    cases t with
    | number x => cases x <;> simp [thresholdToken, Threshold.Writable, Threshold.display, eq_comm]
    | text s =>
      rw [thresholdToken]
      split
      next hempty => simp_all [Threshold.Writable, IsWord]
      next hne =>
        split
        next hblank => simp_all [Threshold.Writable, IsWord]
        next hblank =>
          have hword : IsWord s := ⟨by simpa using hne, by simpa using hblank⟩
          simp [Threshold.Writable, Threshold.display, hword, eq_comm]

theorem Clause.operands_eq_ok_iff {c : Clause} {ts : List String} :
    c.operands = .ok ts ↔ c.Writable ∧ ts = c.words := by
  simp only [operands, Outcome.bind_eq_ok_iff, Outcome.pure_eq_ok_iff, fieldToken_eq_ok_iff,
    comparisonToken_eq_ok_iff, thresholdToken_eq_ok_iff]
  constructor
  · rintro ⟨_, ⟨hfield, rfl⟩, _, ⟨hcomparison, rfl⟩, _, ⟨hthreshold, rfl⟩, rfl⟩
    exact ⟨⟨hfield, hcomparison, hthreshold⟩, rfl⟩
  · rintro ⟨⟨hfield, hcomparison, hthreshold⟩, rfl⟩
    exact ⟨_, ⟨hfield, rfl⟩, _, ⟨hcomparison, rfl⟩, _, ⟨hthreshold, rfl⟩, rfl⟩

theorem scriptTokens_cons_eq_ok_iff {fallback : Connector} {index : Nat} {c : Clause}
    {later : List Clause} {ts : List String} :
    scriptTokens fallback index (c :: later) = .ok ts ↔
      c.Writable ∧ ∃ rest, scriptTokens fallback (index + 1) later = .ok rest ∧
        ts = c.lead fallback index ++ c.words ++ rest := by
  simp only [scriptTokens, Outcome.bind_eq_ok_iff, Outcome.mapError_eq_ok_iff,
    Outcome.pure_eq_ok_iff, Clause.operands_eq_ok_iff]
  constructor
  · rintro ⟨_, ⟨hfirst, rfl⟩, rest, hrest, rfl⟩
    exact ⟨hfirst, rest, hrest, rfl⟩
  · rintro ⟨hfirst, rest, hrest, rfl⟩
    exact ⟨_, ⟨hfirst, rfl⟩, rest, hrest, rfl⟩

theorem scriptTokens_succ_eq_ok_iff {fallback : Connector} {index : Nat} {clauses : List Clause}
    {ts : List String} :
    scriptTokens fallback (index + 1) clauses = .ok ts ↔
      (∀ c ∈ clauses, c.Writable) ∧ ts = clauses.flatMap (Clause.laterWords fallback) := by
  induction clauses generalizing index ts with
  | nil => simp [scriptTokens, eq_comm]
  | cons c later ih =>
    rw [scriptTokens_cons_eq_ok_iff, List.forall_mem_cons, List.flatMap_cons]
    constructor
    · rintro ⟨hfirst, rest, hrest, rfl⟩
      obtain ⟨hlater, rfl⟩ := ih.mp hrest
      exact ⟨⟨hfirst, hlater⟩, rfl⟩
    · rintro ⟨⟨hfirst, hlater⟩, rfl⟩
      exact ⟨hfirst, _, ih.mpr ⟨hlater, rfl⟩, rfl⟩

theorem scriptTokens_zero_eq_ok_iff {fallback : Connector} {clauses : List Clause}
    {ts : List String} :
    scriptTokens fallback 0 clauses = .ok ts ↔
      (∀ c ∈ clauses, c.Writable) ∧ ts = scriptWords fallback clauses := by
  cases clauses with
  | nil => simp [scriptTokens, scriptWords, eq_comm]
  | cons anchor later =>
    rw [scriptTokens_cons_eq_ok_iff, List.forall_mem_cons, scriptWords]
    constructor
    · rintro ⟨hanchor, rest, hrest, rfl⟩
      obtain ⟨hlater, rfl⟩ := scriptTokens_succ_eq_ok_iff.mp hrest
      exact ⟨⟨hanchor, hlater⟩, rfl⟩
    · rintro ⟨⟨hanchor, hlater⟩, rfl⟩
      exact ⟨hanchor, _, scriptTokens_succ_eq_ok_iff.mpr ⟨hlater, rfl⟩, rfl⟩

/-- A clause list has a script if every clause can be written, and then the script
    holds the tokens of the clauses. -/
theorem compile_eq_ok_iff {clauses : List Clause} {fallback : Connector} {script : String} :
    compile clauses fallback = .ok script ↔
      (∀ c ∈ clauses, c.Writable) ∧ script = " ".intercalate (scriptWords fallback clauses) := by
  simp only [compile, Outcome.bind_eq_ok_iff, Outcome.pure_eq_ok_iff, scriptTokens_zero_eq_ok_iff]
  constructor
  · rintro ⟨_, ⟨hclauses, rfl⟩, rfl⟩
    exact ⟨hclauses, rfl⟩
  · rintro ⟨hclauses, rfl⟩
    exact ⟨_, ⟨hclauses, rfl⟩, rfl⟩

/-- A clause list has no script if a clause has no operand tokens, and the first such clause is
    the one reported. -/
theorem scriptTokens_eq_error_iff {fallback : Connector} {index : Nat} {clauses : List Clause}
    {e : ScriptError} :
    scriptTokens fallback index clauses = .error e ↔ ∃ earlier c later,
      clauses = earlier ++ c :: later ∧ (∀ b ∈ earlier, b.Writable) ∧
        c.operands = .error e.defect ∧ e.index = index + earlier.length := by
  induction clauses generalizing index with
  | nil => simp [scriptTokens]
  | cons c rest ih =>
    simp only [scriptTokens, Outcome.bind_eq_error_iff, Outcome.mapError_eq_error_iff,
      Outcome.mapError_eq_ok_iff, Clause.operands_eq_ok_iff, ih]
    constructor
    · rintro (⟨defect, hdefect, rfl⟩ |
        ⟨_, ⟨hc, rfl⟩, ⟨earlier, d, later, rfl, hearlier, hdefect, hindex⟩ | ⟨_, -, hpure⟩⟩)
      · exact ⟨[], c, rest, rfl, nofun, hdefect, rfl⟩
      · refine ⟨c :: earlier, d, later, rfl, List.forall_mem_cons.mpr ⟨hc, hearlier⟩, hdefect, ?_⟩
        rw [List.length_cons]
        omega
      · cases hpure
    · rintro ⟨earlier, d, later, hsplit, hearlier, hdefect, hindex⟩
      cases earlier with
      | nil =>
        obtain ⟨rfl, rfl⟩ := List.cons.inj hsplit
        exact .inl ⟨e.defect, hdefect, by cases e; cases hindex; rfl⟩
      | cons b earlier =>
        obtain ⟨rfl, rfl⟩ := List.cons.inj hsplit
        obtain ⟨hc, hearlier⟩ := List.forall_mem_cons.mp hearlier
        rw [List.length_cons] at hindex
        exact .inr ⟨_, ⟨hc, rfl⟩, .inl ⟨earlier, d, later, rfl, hearlier, hdefect, by omega⟩⟩

theorem compile_eq_error_iff {clauses : List Clause} {fallback : Connector} {e : ScriptError} :
    compile clauses fallback = .error e ↔ ∃ earlier c later,
      clauses = earlier ++ c :: later ∧ (∀ b ∈ earlier, b.Writable) ∧
        c.operands = .error e.defect ∧ e.index = earlier.length := by
  have hcompile : compile clauses fallback = .error e ↔
      scriptTokens fallback 0 clauses = .error e := by
    rw [compile, Outcome.bind_eq_error_iff]
    constructor
    · rintro (htokens | ⟨_, -, hpure⟩)
      · exact htokens
      · cases hpure
    · exact .inl
  simp only [hcompile, scriptTokens_eq_error_iff, Nat.zero_add]

theorem Threshold.Writable.isWord_display {t : Threshold} (ht : t.Writable) : IsWord t.display := by
  cases t with
  | text s => exact ht
  | number x =>
    obtain ⟨y, rfl⟩ := ht
    rw [Text.isWord_iff, display, String.toList_ofList]
    refine ⟨Double.display_ne_nil y, fun c hc => ?_⟩
    rcases Double.mem_display hc with hdigit | rfl | rfl
    · exact Text.isBlank_of_isDigit hdigit
    · decide
    · decide

theorem Clause.Writable.isWord_of_mem_words {c : Clause} (hc : c.Writable) {t : String}
    (ht : t ∈ c.words) : IsWord t := by
  obtain ⟨comparison, hcomparison⟩ := hc.comparison
  obtain ⟨threshold, hthreshold, hwritable⟩ := hc.threshold
  simp only [words, hcomparison, hthreshold, Option.map_some, Option.getD_some, List.mem_cons,
    List.not_mem_nil, or_false] at ht
  rcases ht with rfl | rfl | rfl
  · exact Text.IsWord.append (by decide) hc.field.2
  · exact comparison.isWord_symbol
  · exact hwritable.isWord_display

theorem isWord_of_mem_scriptWords {fallback : Connector} {clauses : List Clause}
    (hclauses : ∀ c ∈ clauses, c.Writable) {t : String}
    (ht : t ∈ scriptWords fallback clauses) : IsWord t := by
  cases clauses with
  | nil => simp [scriptWords] at ht
  | cons anchor later =>
    rw [scriptWords, List.mem_append, List.mem_flatMap] at ht
    rcases ht with hanchor | ⟨c, hc, hlater⟩
    · exact (hclauses anchor (by simp)).isWord_of_mem_words hanchor
    · rcases List.mem_cons.mp hlater with rfl | hword
      · exact Connector.isWord_symbol _
      · exact (hclauses c (by simp [hc])).isWord_of_mem_words hword

/-- The script of a clause list has exactly the tokens of its clauses. -/
theorem tokens_of_compile {clauses : List Clause} {fallback : Connector} {script : String}
    (hscript : compile clauses fallback = .ok script) :
    tokens script = scriptWords fallback clauses := by
  obtain ⟨hclauses, rfl⟩ := compile_eq_ok_iff.mp hscript
  exact tokens_intercalate fun t ht => isWord_of_mem_scriptWords hclauses ht

/-! ### Places -/

theorem getElem?_flatMap_laterWords (fallback : Connector) (later : List Clause) (index : Nat)
    {place : Nat} (hplace : place < 4) :
    (later.flatMap (Clause.laterWords fallback))[4 * index + place]? =
      later[index]?.bind fun c => (c.laterWords fallback)[place]? := by
  induction later generalizing index with
  | nil => simp
  | cons c later ih =>
    have hlength : (c.laterWords fallback).length = 4 := rfl
    rw [List.flatMap_cons]
    cases index with
    | zero =>
      rw [List.getElem?_append_left (by omega), Nat.mul_zero, Nat.zero_add]
      rfl
    | succ index =>
      -- The four tokens of the first clause are passed over.
      have hrest : 4 * (index + 1) + place - 4 = 4 * index + place := by omega
      rw [List.getElem?_append_right (by omega), hlength, hrest, ih, List.getElem?_cons_succ]

/-- The operands of a clause follow each other from a place that is a multiple of four. -/
theorem getElem?_scriptWords (fallback : Connector) (clauses : List Clause) (index : Nat)
    {place : Nat} (hplace : place < 3) :
    (scriptWords fallback clauses)[4 * index + place]? =
      clauses[index]?.bind fun c => c.words[place]? := by
  cases clauses with
  | nil => simp [scriptWords]
  | cons anchor later =>
    have hlength : anchor.words.length = 3 := rfl
    rw [scriptWords]
    cases index with
    | zero =>
      rw [List.getElem?_append_left (by omega), Nat.mul_zero, Nat.zero_add]
      rfl
    | succ index =>
      -- The anchor has no connector, so one token of the next clause is passed over as well.
      have hrest : 4 * (index + 1) + place - 3 = 4 * index + (place + 1) := by omega
      rw [List.getElem?_append_right (by omega), hlength, hrest,
        getElem?_flatMap_laterWords fallback later index (by omega), List.getElem?_cons_succ]
      rfl

/-- The connector of a clause is the token before its operands. -/
theorem getElem?_scriptWords_connector (fallback : Connector) (clauses : List Clause)
    (index : Nat) :
    (scriptWords fallback clauses)[4 * index + 3]? =
      clauses[index + 1]?.map fun c => (c.connector?.getD fallback).symbol := by
  cases clauses with
  | nil => simp [scriptWords]
  | cons anchor later =>
    have hlength : anchor.words.length = 3 := rfl
    have hplace := getElem?_flatMap_laterWords fallback later index (Nat.zero_lt_succ 3)
    rw [Nat.add_zero] at hplace
    rw [scriptWords, List.getElem?_append_right (by omega), hlength, Nat.add_sub_cancel, hplace,
      List.getElem?_cons_succ]
    cases later[index]? <;> rfl

theorem length_scriptWords (fallback : Connector) (clauses : List Clause) :
    (scriptWords fallback clauses).length = 4 * clauses.length - 1 := by
  cases clauses with
  | nil => rfl
  | cons anchor later =>
    have hlength : anchor.words.length = 3 := rfl
    have hlater : (later.flatMap (Clause.laterWords fallback)).length = 4 * later.length := by
      induction later with
      | nil => rfl
      | cons c later ih =>
        have hfour : (c.laterWords fallback).length = 4 := rfl
        rw [List.flatMap_cons, List.length_append, ih, hfour, List.length_cons]
        omega
    rw [scriptWords, List.length_append, hlength, hlater, List.length_cons]
    omega

/-! ### Grouping -/

/-- What is left behind the groups of four is a group of less than four tokens. -/
theorem length_of_short {ts : List String} (hnil : ts ≠ [])
    (hfour : ∀ a b c d rest, ts ≠ a :: b :: c :: d :: rest) : 0 < ts.length ∧ ts.length < 4 := by
  refine ⟨List.length_pos_iff.mpr hnil, ?_⟩
  rcases ts with _ | ⟨a, _ | ⟨b, _ | ⟨c, _ | ⟨d, rest⟩⟩⟩⟩
  · simp
  · simp
  · simp
  · simp
  · exact absurd rfl (hfour a b c d rest)

theorem groupsOfFour_append {ts : List String} (hts : ts.length % 4 = 0) (rest : List String) :
    groupsOfFour (ts ++ rest) = groupsOfFour ts ++ groupsOfFour rest := by
  fun_induction groupsOfFour ts with
  | case1 => rfl
  | case2 a b c d later ih =>
    have hlater : later.length % 4 = 0 := by
      simp only [List.length_cons] at hts
      omega
    change [a, b, c, d] :: groupsOfFour (later ++ rest) = _
    rw [ih hlater]
    rfl
  | case3 ts hnil hfour =>
    have := length_of_short hnil hfour
    omega

theorem groupsOfFour_flatMap_laterWords (fallback : Connector) (later : List Clause) :
    groupsOfFour (later.flatMap (Clause.laterWords fallback)) =
      later.map (Clause.laterWords fallback) := by
  induction later with
  | nil => rfl
  | cons c later ih =>
    rw [List.flatMap_cons, List.map_cons, ← ih]
    rfl

theorem regroup_scriptWords (fallback : Connector) (anchor : Clause) (later : List Clause) :
    regroup (scriptWords fallback (anchor :: later)) =
      anchor.words :: later.map (Clause.laterWords fallback) := by
  rw [scriptWords, ← groupsOfFour_flatMap_laterWords]
  rfl

/-! ### Reading back -/

/-- A threshold as it is read back: a text that denotes a finite number becomes that
    number. -/
def Threshold.reread : Threshold → Threshold
  | .number x => .number x
  | .text s => ofToken s

/-- A clause as it is read back after a connector, or as the anchor. -/
def Clause.reread (connector? : Option Connector) (c : Clause) : Clause :=
  { c with connector? := connector?, threshold? := c.threshold?.map Threshold.reread }

/-- A clause list as it is read back. -/
def reread (fallback : Connector) : List Clause → List Clause
  | [] => []
  | anchor :: later =>
    anchor.reread none :: later.map fun c => c.reread (some (c.connector?.getD fallback))

theorem Threshold.ofToken_display {t : Threshold} (ht : t.Writable) :
    ofToken t.display = t.reread := by
  cases t with
  | text s => rfl
  | number x =>
    obtain ⟨y, rfl⟩ := ht
    rw [ofToken, display, String.toList_ofList, Double.ofText?_display]
    rfl

theorem clauseOfOperands_words {c : Clause} (hc : c.Writable) (connector? : Option Connector) :
    clauseOfOperands connector? c.words = c.reread connector? := by
  obtain ⟨comparison, hcomparison⟩ := hc.comparison
  obtain ⟨threshold, hthreshold, hwritable⟩ := hc.threshold
  simp [clauseOfOperands, Clause.words, Clause.reread, hcomparison, hthreshold,
    fieldOfToken_append, Threshold.ofToken_display hwritable]

theorem clauseOfGroup_laterWords {c : Clause} (hc : c.Writable) (written fallback : Connector) :
    clauseOfGroup fallback (c.laterWords written) =
      c.reread (some (c.connector?.getD written)) := by
  simp [clauseOfGroup, Clause.laterWords, clauseOfOperands_words hc]

/-- Reading the script of a clause list gives the list as it is read back, whatever the
    fallback for reading: every later clause has a connector in the script. -/
theorem decompile_of_compile {clauses : List Clause} {written fallback : Connector}
    {script : String} (hscript : compile clauses written = .ok script) :
    decompile script fallback = reread written clauses := by
  have hclauses := (compile_eq_ok_iff.mp hscript).1
  rw [decompile, groups, tokens_of_compile hscript]
  cases clauses with
  | nil => rfl
  | cons anchor later =>
    rw [regroup_scriptWords, clausesOfGroups, clauseOfOperands_words (hclauses anchor (by simp)),
      List.map_map, reread]
    congr 1
    apply List.map_congr_left
    intro c hc
    exact clauseOfGroup_laterWords (hclauses c (by simp [hc])) written fallback

end TriggerCompose.Condition
