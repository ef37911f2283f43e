import TriggerCompose.Proofs.Condition.RoundTrip

/-!
# Canonical scripts

Any text is read as a clause list, and most lists that come of it can be written again.
A list that can be is read back unchanged from its script, so reading and writing
once gives a script that reading and writing keeps.

## Main definitions

* `Condition.Clause.Decoded`: what is known of every clause that reading gives.

## Main statements

* `Condition.flatten_regroup`: grouping loses no token.
* `Condition.writable_decompile_iff`: which scripts are read as lists that have one.
* `Condition.compile_decompile`: one pass reaches a canonical script.
-/

namespace TriggerCompose.Condition

open Text (IsWord hasBlank)

/-! ### Fields of tokens -/

theorem fieldOfToken_cases (token : String) :
    (∃ field, token = variableMark ++ field ∧ fieldOfToken token = field) ∨
      (token ≠ variableMark ∧ fieldOfToken token = token) := by
  unfold fieldOfToken
  split
  next rest hrest =>
    rw [List.isPrefixOf?_eq_some_iff_append_eq] at hrest
    refine .inl ⟨_, ?_, rfl⟩
    rw [← String.toList_inj, String.toList_append, String.toList_ofList, hrest]
  next hnone =>
    refine .inr ⟨?_, rfl⟩
    rintro rfl
    exact absurd hnone (by decide)

theorem hasBlank_fieldOfToken {token : String} (htoken : IsWord token) :
    hasBlank (fieldOfToken token) = false := by
  rcases fieldOfToken_cases token with ⟨field, rfl, hfield⟩ | ⟨-, hfield⟩
  · have hblank := htoken.2
    rw [Text.hasBlank_append, Bool.or_eq_false_iff] at hblank
    rw [hfield]
    exact hblank.2
  · rw [hfield]
    exact htoken.2

/-- Only the bare variable mark names no field. -/
theorem isWord_fieldOfToken_iff {token : String} (htoken : IsWord token) :
    IsWord (fieldOfToken token) ↔ token ≠ variableMark := by
  rw [IsWord, and_iff_left (hasBlank_fieldOfToken htoken)]
  rcases fieldOfToken_cases token with ⟨field, rfl, hfield⟩ | ⟨hmark, hfield⟩
  · rw [hfield, not_iff_not]
    constructor
    · rintro rfl
      simp
    · intro h
      rw [← String.toList_inj] at h ⊢
      simpa using h
  · rw [hfield]
    exact iff_of_true htoken.1 hmark

/-! ### Grouping loses no token -/

theorem flatten_groupsOfFour (ts : List String) : (groupsOfFour ts).flatten = ts := by
  fun_induction groupsOfFour ts with
  | case1 => rfl
  | case2 a b c d rest ih => simp [ih]
  | case3 => simp

theorem flatten_regroup (ts : List String) : (regroup ts).flatten = ts := by
  unfold regroup
  split
  next => rfl
  next a b c rest => simp [flatten_groupsOfFour]
  next => simp

theorem isWord_of_mem_groups {source : String} {group : List String}
    (hgroup : group ∈ groups source) {t : String} (ht : t ∈ group) : IsWord t := by
  have hmem : t ∈ (regroup (tokens source)).flatten := List.mem_flatten_of_mem hgroup ht
  rw [flatten_regroup] at hmem
  exact isWord_of_mem_tokens hmem

/-! ### What reading gives -/

/-- A clause as reading gives it: no blank in the field, and a threshold that a token
    can hold and that reads as itself. -/
structure Clause.Decoded (c : Clause) : Prop where
  field : hasBlank c.field = false
  writable : ∀ t, c.threshold? = some t → t.Writable
  plain : ∀ s, c.threshold? = some (.text s) → IsPlain s

theorem Threshold.writable_ofToken {token : String} (htoken : IsWord token) :
    (ofToken token).Writable := by
  unfold ofToken
  split
  next x hx => exact ⟨x, rfl⟩
  next => exact htoken

theorem Threshold.isPlain_of_ofToken {token s : String} (hs : ofToken token = .text s) :
    IsPlain s := by
  unfold ofToken at hs
  split at hs
  next => cases hs
  next hplain =>
    cases hs
    exact fun x hx => hplain x hx

theorem Clause.decoded_clauseOfOperands {connector? : Option Connector} {operands : List String}
    (hwords : ∀ t ∈ operands, IsWord t) : (clauseOfOperands connector? operands).Decoded where
  field := by
    cases operands with
    | nil => rfl
    | cons f operands => exact hasBlank_fieldOfToken (hwords f (by simp))
  writable t ht := by
    obtain ⟨token, htoken, rfl⟩ := Option.map_eq_some_iff.mp ht
    exact Threshold.writable_ofToken (hwords token (List.mem_of_getElem? htoken))
  plain s hs := by
    obtain ⟨token, -, hread⟩ := Option.map_eq_some_iff.mp hs
    exact Threshold.isPlain_of_ofToken hread

theorem Clause.decoded_of_mem_decompile {source : String} {fallback : Connector} {c : Clause}
    (hc : c ∈ decompile source fallback) : c.Decoded := by
  have hgroups : ∀ group ∈ groups source, ∀ t ∈ group, IsWord t :=
    fun _ hgroup _ ht => isWord_of_mem_groups hgroup ht
  rw [decompile] at hc
  cases hsource : groups source with
  | nil => simp [hsource, clausesOfGroups] at hc
  | cons anchor later =>
    rw [hsource] at hgroups
    rw [hsource, clausesOfGroups, List.mem_cons, List.mem_map] at hc
    rcases hc with rfl | ⟨group, hgroup, rfl⟩
    · exact decoded_clauseOfOperands (hgroups anchor (by simp))
    · exact decoded_clauseOfOperands fun t ht =>
        hgroups group (by simp [hgroup]) t (List.mem_of_mem_tail ht)

/-- What a script is read as would be read back unchanged. -/
theorem reread_decompile (source : String) (written fallback : Connector) :
    reread written (decompile source fallback) = decompile source fallback := by
  rw [reread_eq_self_iff]
  refine ⟨?_, ?_, fun c hc => (Clause.decoded_of_mem_decompile hc).plain⟩
  · rw [decompile]
    cases groups source with
    | nil => simp [clausesOfGroups]
    | cons anchor later => simp [clausesOfGroups, clauseOfOperands]
  · rw [decompile]
    cases groups source with
    | nil => simp [clausesOfGroups]
    | cons anchor later => simp [clausesOfGroups, clauseOfGroup, clauseOfOperands]

/-! ### Why a decoded list has no script -/

theorem Clause.Decoded.reason_of_operands {c : Clause} (hc : c.Decoded) {defect : Defect}
    (hdefect : c.operands = .error defect) : defect.reason = .incompleteClause := by
  simp only [operands, Outcome.bind_eq_error_iff] at hdefect
  rcases hdefect with hfield | ⟨_, -, hcomparison | ⟨_, -, hthreshold | ⟨_, -, hpure⟩⟩⟩
  · rw [fieldToken, hc.field] at hfield
    split at hfield
    · cases hfield; rfl
    · simp at hfield
  · cases hcomparison? : c.comparison? with
    | none =>
      rw [hcomparison?] at hcomparison
      cases hcomparison; rfl
    | some comparison =>
      rw [hcomparison?] at hcomparison
      cases hcomparison
  · cases hthreshold? : c.threshold? with
    | none =>
      rw [hthreshold?] at hthreshold
      cases hthreshold; rfl
    | some t =>
      -- A threshold that was read from a token can be written as one.
      have hok := thresholdToken_eq_ok_iff.mpr ⟨⟨t, hthreshold?, hc.writable t hthreshold?⟩, rfl⟩
      rw [hok] at hthreshold
      cases hthreshold
  · cases hpure

theorem exists_operands_of_compile {clauses : List Clause} {fallback : Connector}
    {e : ScriptError} (he : compile clauses fallback = .error e) :
    ∃ c ∈ clauses, c.operands = .error e.defect := by
  obtain ⟨earlier, c, later, rfl, -, hdefect, -⟩ := compile_eq_error_iff.mp he
  exact ⟨c, by simp, hdefect⟩

/-! ### Which scripts are read as lists that have a script -/

theorem Comparison.ofSymbol?_isSome_iff {token : String} :
    (∃ c, ofSymbol? token = some c) ↔ token ∈ [">", "<", "=="] := by
  unfold ofSymbol?
  split
  next h => simp [h]
  next =>
    split
    next h => simp [h]
    next =>
      split
      next h => simp [h]
      next => simp_all

theorem writable_clauseOfOperands_iff (connector? : Option Connector) {f t : String} (op : String)
    (hf : IsWord f) (ht : IsWord t) :
    (clauseOfOperands connector? [f, op, t]).Writable ↔
      op ∈ [">", "<", "=="] ∧ f ≠ variableMark := by
  rw [← Comparison.ofSymbol?_isSome_iff, ← isWord_fieldOfToken_iff hf]
  constructor
  · intro h
    exact ⟨h.comparison, h.field⟩
  · rintro ⟨hop, hfield⟩
    exact ⟨hfield, hop, _, rfl, Threshold.writable_ofToken ht⟩

theorem not_writable_clauseOfOperands {connector? : Option Connector} {operands : List String}
    (hshort : operands.length < 3) : ¬ (clauseOfOperands connector? operands).Writable := by
  intro h
  obtain ⟨t, ht, -⟩ := h.threshold
  simp [clauseOfOperands, List.getElem?_eq_none (Nat.le_of_lt_succ hshort)] at ht

theorem forall_getElem?_cons {P : Nat → String → Prop} {a : String} {ts : List String} :
    (∀ (i : Nat) (t : String), (a :: ts)[i]? = some t → P i t) ↔
      P 0 a ∧ ∀ (i : Nat) (t : String), ts[i]? = some t → P (i + 1) t := by
  constructor
  · intro h
    exact ⟨h 0 a rfl, fun i t ht => h (i + 1) t (by simpa using ht)⟩
  · rintro ⟨hfirst, hlater⟩ i t ht
    cases i with
    | zero =>
      cases ht
      exact hfirst
    | succ i => exact hlater i t (by simpa using ht)

/-- The clauses after the anchor can all be written if their tokens come in fours, with
    a comparison at every third place and a field at every second. -/
theorem writable_groupsOfFour_iff (fallback : Connector) {ts : List String}
    (hwords : ∀ t ∈ ts, IsWord t) :
    (∀ group ∈ groupsOfFour ts, (clauseOfGroup fallback group).Writable) ↔
      ts.length % 4 = 0 ∧
        (∀ (i : Nat) (t : String), ts[i]? = some t → i % 4 = 2 → t ∈ [">", "<", "=="]) ∧
        ∀ (i : Nat) (t : String), ts[i]? = some t → i % 4 = 1 → t ≠ variableMark := by
  fun_induction groupsOfFour ts with
  | case1 => simp
  | case2 connector f op t rest ih =>
    have hrest := ih fun u hu => hwords u (by simp [hu])
    rw [List.forall_mem_cons, hrest]
    have hgroup : (clauseOfGroup fallback [connector, f, op, t]).Writable ↔
        op ∈ [">", "<", "=="] ∧ f ≠ variableMark :=
      writable_clauseOfOperands_iff _ op (hwords f (by simp)) (hwords t (by simp))
    -- Behind a whole group every token has the same place in its own group.
    have hshift : ∀ i, (i + 1 + 1 + 1 + 1) % 4 = i % 4 := by omega
    simp only [hgroup, forall_getElem?_cons, hshift, List.length_cons, Nat.zero_mod, Nat.zero_add,
      Nat.one_mod, Nat.reduceAdd, Nat.reduceMod, Nat.reduceEqDiff, Nat.zero_ne_one, Nat.mod_succ,
      Nat.succ_ne_self, reduceCtorEq, false_implies, forall_const, true_and]
    constructor
    · rintro ⟨⟨hop, hf⟩, hlength, hops, hfields⟩
      exact ⟨hlength, ⟨hop, hops⟩, hf, hfields⟩
    · rintro ⟨hlength, ⟨hop, hops⟩, hf, hfields⟩
      exact ⟨⟨hop, hf⟩, hlength, hops, hfields⟩
  | case3 ts hnil hfour =>
    -- A last group of less than four tokens has no threshold.
    have hlength := length_of_short hnil hfour
    have hshort : ¬ (clauseOfGroup fallback ts).Writable := by
      apply not_writable_clauseOfOperands
      rw [List.length_tail]
      omega
    refine iff_of_false (fun h => hshort (h ts (by simp))) ?_
    rintro ⟨hzero, -⟩
    omega

/-- A list that a script is read as can be written if the script is empty or its tokens
    come in fours but for a missing first, with a comparison and a field where they are
    expected. -/
theorem writable_decompile_iff (source : String) (fallback : Connector) :
    (∀ c ∈ decompile source fallback, c.Writable) ↔
      ((tokens source).length = 0 ∨ (tokens source).length % 4 = 3) ∧
        (∀ (i : Nat) (t : String), (tokens source)[i]? = some t → i % 4 = 1 →
          t ∈ [">", "<", "=="]) ∧
        ∀ (i : Nat) (t : String), (tokens source)[i]? = some t → i % 4 = 0 →
          t ≠ variableMark := by
  have hwords : ∀ t ∈ tokens source, IsWord t := fun t ht => isWord_of_mem_tokens ht
  rw [decompile, groups]
  generalize tokens source = ts at hwords ⊢
  rcases ts with _ | ⟨f, _ | ⟨op, _ | ⟨t, rest⟩⟩⟩
  · simp [regroup, clausesOfGroups]
  · have hshort : ¬ (clauseOfOperands none [f]).Writable :=
      not_writable_clauseOfOperands (by simp)
    exact iff_of_false (fun h => hshort (h _ List.mem_cons_self)) (by simp)
  · have hshort : ¬ (clauseOfOperands none [f, op]).Writable :=
      not_writable_clauseOfOperands (by simp)
    exact iff_of_false (fun h => hshort (h _ List.mem_cons_self)) (by simp)
  · have hrest := writable_groupsOfFour_iff fallback fun u (hu : u ∈ rest) =>
      hwords u (by simp [hu])
    have hanchor := writable_clauseOfOperands_iff none op (hwords f (by simp)) (hwords t (by simp))
    -- The anchor has no connector, so places in the script and after the anchor differ.
    have hshift : ∀ i, (i + 1 + 1 + 1) % 4 = 1 ↔ i % 4 = 2 := by omega
    have hshift' : ∀ i, (i + 1 + 1 + 1) % 4 = 0 ↔ i % 4 = 1 := by omega
    have hcount : (rest.length + 1 + 1 + 1) % 4 = 3 ↔ rest.length % 4 = 0 := by omega
    rw [regroup, clausesOfGroups, List.forall_mem_cons, List.forall_mem_map, hrest, hanchor]
    simp only [forall_getElem?_cons, List.length_cons, hshift, hshift', hcount, Nat.succ_ne_self,
      Nat.zero_mod, Nat.zero_add, Nat.one_mod, Nat.reduceAdd, Nat.reduceMod, Nat.zero_ne_one,
      reduceCtorEq, false_or, false_implies, forall_const, true_and]
    constructor
    · rintro ⟨⟨hop, hf⟩, hlength, hops, hfields⟩
      exact ⟨hlength, ⟨hop, hops⟩, hf, hfields⟩
    · rintro ⟨hlength, ⟨hop, hops⟩, hf, hfields⟩
      exact ⟨⟨hop, hf⟩, hlength, hops, hfields⟩

/-! ### Equality as numbers -/

theorem Threshold.Writable.sameValue_self {t : Threshold} (ht : t.Writable) : t.sameValue t := by
  cases t with
  | text s => simp [sameValue]
  | number x =>
    obtain ⟨y, rfl⟩ := ht
    simp [sameValue, Double.sameValue, Finite.sameValue]

theorem Clause.Decoded.sameValue_self {c : Clause} (hc : c.Decoded) : c.sameValue c := by
  cases hthreshold : c.threshold? with
  | none => simp [sameValue, hthreshold]
  | some t => simp [sameValue, hthreshold, (hc.writable t hthreshold).sameValue_self]

/-- A list that a script is read as has a script just if the tokens of the first one are
    complete; otherwise some clause is. The new script is read as the same list
    and written the same again: one pass reaches a canonical script. -/
theorem compile_decompile (source : String) (fallback written later : Connector) :
    ((∃ script, compile (decompile source fallback) written = .ok script) ↔
        ((tokens source).length = 0 ∨ (tokens source).length % 4 = 3) ∧
          (∀ (i : Nat) (t : String), (tokens source)[i]? = some t → i % 4 = 1 →
            t ∈ [">", "<", "=="]) ∧
          ∀ (i : Nat) (t : String), (tokens source)[i]? = some t → i % 4 = 0 →
            t ≠ variableMark) ∧
      (∀ e, compile (decompile source fallback) written = .error e →
        e.failure.reason = .incompleteClause) ∧
      ∀ script, compile (decompile source fallback) written = .ok script →
        decompile script later = decompile source fallback ∧
          (∀ c ∈ decompile source fallback, c.sameValue c) ∧
          compile (decompile script later) written = .ok script := by
  refine ⟨?_, ?_, ?_⟩
  · rw [← writable_decompile_iff source fallback]
    simp only [compile_eq_ok_iff, exists_and_left, exists_eq, and_true]
  · intro e he
    obtain ⟨c, hc, hdefect⟩ := exists_operands_of_compile he
    exact (Clause.decoded_of_mem_decompile hc).reason_of_operands hdefect
  · intro script hscript
    have hread : decompile script later = decompile source fallback := by
      rw [decompile_of_compile hscript, reread_decompile]
    refine ⟨hread, fun c hc => (Clause.decoded_of_mem_decompile hc).sameValue_self, ?_⟩
    rw [hread]
    exact hscript

end TriggerCompose.Condition
