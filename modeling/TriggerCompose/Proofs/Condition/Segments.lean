import TriggerCompose.Proofs.Condition.Canonical
import TriggerCompose.Proofs.Condition.Concatenation
import Mathlib.Algebra.Order.Floor.Div

/-!
# The groups of a script

How the tokens of a script fall into groups, whatever their number. With a token in place of
the connector that the anchor lacks, they are groups of four, of which only the last one may
be short. So the number of tokens alone decides how many clauses there are, and whether the
last of them has a threshold.

## Main definitions

* `Condition.Segmented`: how tokens are cut into groups.
* `Condition.Positioned`: what the number of tokens says of the clauses.

## Main statements

* `Condition.getElem?_groupsOfFour_eq_some_iff`, `Condition.getElem?_regroup_eq_some_iff`: the
  group at a place.
* `Condition.segmented_regroup`: the groups of any tokens.
* `Condition.length_lt_wholeLength_iff`: which group is short.
* `Condition.positioned_clausesOfGroups`: the clauses of any tokens.
* `Condition.segmented_script`: all of this for any script.
-/

namespace TriggerCompose.Condition

open Text (Spaced)

/-! ### Groups of four -/

/-- The group at a place holds the four tokens from there on, or as many as there are. -/
theorem getElem?_groupsOfFour_eq_some_iff {ts group : List String} {i : Nat} :
    (groupsOfFour ts)[i]? = some group ↔
      4 * i < ts.length ∧ group = (ts.drop (4 * i)).take 4 := by
  fun_induction groupsOfFour ts generalizing i with
  | case1 => simp
  | case2 a b c d rest ih =>
    cases i with
    | zero => simp [eq_comm]
    | succ i =>
      have hlength : 4 * (i + 1) < (a :: b :: c :: d :: rest).length ↔ 4 * i < rest.length := by
        simp only [List.length_cons]
        omega
      rw [List.getElem?_cons_succ, ih, hlength]
      rfl
  | case3 ts hnil hfour =>
    obtain ⟨hpos, hshort⟩ := length_of_short hnil hfour
    cases i with
    | zero =>
      have htake : ts.take 4 = ts := List.take_of_length_le (by omega)
      simp [htake, hpos, eq_comm]
    | succ i =>
      have hout : ¬ 4 * (i + 1) < ts.length := by omega
      simp [hout]

theorem length_groupsOfFour (ts : List String) :
    (groupsOfFour ts).length = ts.length ⌈/⌉ 4 := by
  rw [Nat.ceilDiv_eq_add_pred_div]
  fun_induction groupsOfFour ts with
  | case1 => rfl
  | case2 a b c d rest ih =>
    simp only [List.length_cons, ih]
    omega
  | case3 ts hnil hfour =>
    obtain ⟨hpos, hshort⟩ := length_of_short hnil hfour
    rw [List.length_singleton]
    omega

/-! ### Groups of a script -/

/-- The number of tokens of a whole clause. The anchor has no connector. -/
def wholeLength (index : Nat) : Nat :=
  if index = 0 then 3 else 4

/-- The group at a place holds the tokens of a whole clause, or as many as there are. -/
theorem getElem?_regroup_eq_some_iff {ts group : List String} {i : Nat} :
    (regroup ts)[i]? = some group ↔
      4 * i - 1 < ts.length ∧ group = (ts.drop (4 * i - 1)).take (wholeLength i) := by
  by_cases hts : ts = []
  · subst hts
    simp [regroup]
  · obtain ⟨anchor, later, hgroups, hfour⟩ := groupsOfFour_cons "" hts
    have hplace := @getElem?_groupsOfFour_eq_some_iff ("" :: ts)
    rw [hfour] at hplace
    rw [hgroups]
    cases i with
    | zero =>
      have hanchor : anchor = ts.take 3 := by
        simpa using (@hplace ("" :: anchor) 0).mp rfl
      simp [hanchor, wholeLength, List.length_pos_iff, hts, eq_comm]
    | succ i =>
      have hdrop : ("" :: ts).drop (4 * (i + 1)) = ts.drop (4 * (i + 1) - 1) := rfl
      have hlength : 4 * (i + 1) < ("" :: ts).length ↔ 4 * (i + 1) - 1 < ts.length := by
        rw [List.length_cons]
        omega
      have hlater := @hplace group (i + 1)
      rw [hdrop, hlength, List.getElem?_cons_succ] at hlater
      rw [List.getElem?_cons_succ, hlater]
      rfl

theorem length_regroup {ts : List String} (hts : ts ≠ []) :
    (regroup ts).length = (ts.length + 1) ⌈/⌉ 4 := by
  obtain ⟨anchor, later, hgroups, hfour⟩ := groupsOfFour_cons "" hts
  have hlength := length_groupsOfFour ("" :: ts)
  rw [hfour] at hlength
  rw [hgroups]
  exact hlength

theorem length_of_getElem?_regroup {ts group : List String} {i : Nat}
    (hgroup : (regroup ts)[i]? = some group) :
    0 < group.length ∧ group.length = min (wholeLength i) (ts.length - (4 * i - 1)) := by
  obtain ⟨hlt, rfl⟩ := getElem?_regroup_eq_some_iff.mp hgroup
  rw [List.length_take, List.length_drop]
  refine ⟨?_, rfl⟩
  unfold wholeLength
  split <;> omega

/-- A group is short only at the end, and there just if the tokens leave off inside a clause. -/
theorem length_lt_wholeLength_iff {ts group : List String} {i : Nat}
    (hgroup : (regroup ts)[i]? = some group) :
    group.length < wholeLength i ↔ i + 1 = (regroup ts).length ∧ ts.length % 4 ≠ 3 := by
  have hlt := (getElem?_regroup_eq_some_iff.mp hgroup).1
  have hts : ts ≠ [] := List.length_pos_iff.mp (by omega)
  rw [(length_of_getElem?_regroup hgroup).2, length_regroup hts, Nat.ceilDiv_eq_add_pred_div]
  unfold wholeLength
  split <;> omega

/-- How tokens are cut into groups. -/
structure Segmented (ts : List String) (gs : List (List String)) : Prop where
  /-- No token is lost, added or moved. -/
  flatten : gs.flatten = ts
  ne_nil : ∀ group ∈ gs, group ≠ []
  first : ∀ group, gs.head? = some group → group = ts.take 3 ∧ group.length = min 3 ts.length
  inner : ∀ i group, gs[i]? = some group → 0 < i → i + 1 < gs.length → group.length = 4
  last : ∀ i group, gs[i]? = some group → 0 < i → i + 1 = gs.length →
    1 ≤ group.length ∧ group.length ≤ 4
  count : 1 ≤ ts.length → gs.length = (ts.length + 1) ⌈/⌉ 4
  none : ts.length = 0 → gs = []

/-- Grouping keeps the tokens, and all groups but the last one are full. -/
theorem segmented_regroup (ts : List String) : Segmented ts (regroup ts) where
  flatten := flatten_regroup ts
  ne_nil := by
    intro group hmem
    obtain ⟨i, hgroup⟩ := List.mem_iff_getElem?.mp hmem
    exact List.length_pos_iff.mp (length_of_getElem?_regroup hgroup).1
  first := by
    intro group hhead
    rw [List.head?_eq_getElem?] at hhead
    exact ⟨(getElem?_regroup_eq_some_iff.mp hhead).2, (length_of_getElem?_regroup hhead).2⟩
  inner := by
    intro i group hgroup hi hinner
    have hwhole : wholeLength i = 4 := if_neg (by omega)
    have hshort := length_lt_wholeLength_iff hgroup
    have hle := (length_of_getElem?_regroup hgroup).2
    rw [hwhole] at hshort hle
    omega
  last := by
    intro i group hgroup hi _
    have hwhole : wholeLength i = 4 := if_neg (by omega)
    obtain ⟨hpos, hle⟩ := length_of_getElem?_regroup hgroup
    rw [hwhole] at hle
    omega
  count := fun hts => length_regroup (List.length_pos_iff.mp hts)
  none := by
    intro hts
    rw [List.length_eq_zero_iff.mp hts]
    rfl

/-! ### Clauses -/

theorem threshold?_clauseOfOperands_eq_none_iff {connector? : Option Connector}
    {operands : List String} :
    (clauseOfOperands connector? operands).threshold? = none ↔ operands.length < 3 := by
  rw [clauseOfOperands, Option.map_eq_none_iff, List.getElem?_eq_none_iff, Nat.lt_succ_iff]

theorem getElem?_clausesOfGroups {fallback : Connector} {gs : List (List String)} {i : Nat}
    {c : Clause} (hc : (clausesOfGroups fallback gs)[i]? = some c) :
    ∃ group, gs[i]? = some group ∧
      c = if i = 0 then clauseOfOperands none group else clauseOfGroup fallback group := by
  cases gs with
  | nil => simp [clausesOfGroups] at hc
  | cons anchor later =>
    cases i with
    | zero => exact ⟨anchor, rfl, (Option.some.inj hc).symm⟩
    | succ i =>
      rw [clausesOfGroups, List.getElem?_cons_succ, List.getElem?_map] at hc
      obtain ⟨group, hgroup, rfl⟩ := Option.map_eq_some_iff.mp hc
      exact ⟨group, hgroup, rfl⟩

theorem length_clausesOfGroups (fallback : Connector) (gs : List (List String)) :
    (clausesOfGroups fallback gs).length = gs.length := by
  cases gs with
  | nil => rfl
  | cons anchor later => simp [clausesOfGroups]

/-- A clause has no threshold just if its group is short. -/
theorem threshold?_eq_none_iff {fallback : Connector} {group : List String} {i : Nat} {c : Clause}
    (hc : c = if i = 0 then clauseOfOperands none group else clauseOfGroup fallback group)
    (hgroup : group ≠ []) : c.threshold? = none ↔ group.length < wholeLength i := by
  have hpos := List.length_pos_iff.mpr hgroup
  subst hc
  unfold wholeLength
  by_cases hi : i = 0
  · rw [if_pos hi, if_pos hi, threshold?_clauseOfOperands_eq_none_iff]
  · rw [if_neg hi, if_neg hi, clauseOfGroup, threshold?_clauseOfOperands_eq_none_iff,
      List.length_tail]
    omega

/-- What the number of tokens says of the clauses that they are read as. -/
structure Positioned (ts : List String) (gs : List (List String)) (clauses : List Clause) :
    Prop where
  length : clauses.length = gs.length
  connector : ∀ i c, clauses[i]? = some c → (c.connector? = none ↔ i = 0)
  /-- Only the last clause may lack its threshold. -/
  inner : ∀ i c, clauses[i]? = some c → c.threshold? = none → i + 1 = clauses.length
  last : (∃ c, clauses.getLast? = some c ∧ c.threshold? = none) ↔
    1 ≤ ts.length ∧ ts.length % 4 ≠ 3

theorem positioned_clausesOfGroups (fallback : Connector) (ts : List String) :
    Positioned ts (regroup ts) (clausesOfGroups fallback (regroup ts)) := by
  have hlength := length_clausesOfGroups fallback (regroup ts)
  have hthreshold : ∀ i c, (clausesOfGroups fallback (regroup ts))[i]? = some c →
      (c.threshold? = none ↔ i + 1 = (regroup ts).length ∧ ts.length % 4 ≠ 3) := by
    intro i c hc
    obtain ⟨group, hgroup, hclause⟩ := getElem?_clausesOfGroups hc
    have hne := (segmented_regroup ts).ne_nil group (List.mem_of_getElem? hgroup)
    rw [threshold?_eq_none_iff hclause hne, length_lt_wholeLength_iff hgroup]
  refine ⟨hlength, ?_, ?_, ?_⟩
  · intro i c hc
    obtain ⟨group, -, rfl⟩ := getElem?_clausesOfGroups hc
    by_cases hi : i = 0
    · simp [hi, clauseOfOperands]
    · simp [hi, clauseOfGroup, clauseOfOperands]
  · intro i c hc hnone
    rw [hlength]
    exact ((hthreshold i c hc).mp hnone).1
  · rw [List.getLast?_eq_getElem?]
    constructor
    · rintro ⟨c, hc, hnone⟩
      have hts := (getElem?_clausesOfGroups hc).choose_spec.1
      have hpos := (getElem?_regroup_eq_some_iff.mp hts).1
      exact ⟨by omega, ((hthreshold _ c hc).mp hnone).2⟩
    · rintro ⟨hpos, hmod⟩
      have hgroups : 0 < (regroup ts).length :=
        List.length_pos_iff.mpr (regroup_ne_nil (List.length_pos_iff.mp hpos))
      have hlast : (clausesOfGroups fallback (regroup ts)).length - 1 <
          (clausesOfGroups fallback (regroup ts)).length := by omega
      have hc := List.getElem?_eq_getElem hlast
      exact ⟨_, hc, (hthreshold _ _ hc).mpr ⟨by omega, hmod⟩⟩

/-! ### Scripts -/

/-- The tokens of any script are cut into groups that keep them, and into the same groups
    again when they are written in a row with other blank characters between them. The clauses
    of the script are as many as its groups; only the first one has no connector, and only the
    last one may have no threshold. -/
theorem segmented_script (source : String) (fallback : Connector) :
    Segmented (tokens source) (groups source) ∧
      (∀ text, Spaced (groups source).flatten text → groups text = groups source) ∧
      Positioned (tokens source) (groups source) (decompile source fallback) := by
  refine ⟨segmented_regroup _, ?_, positioned_clausesOfGroups fallback _⟩
  intro text htext
  rw [groups, flatten_regroup] at htext
  rw [groups, tokens_of_spaced htext fun t ht => isWord_of_mem_tokens ht]
  rfl

/-- A script that breaks off, with other blank characters between its tokens. -/
theorem segmented_script_respaced :
    let source := "params.x > 1 && params.y"
    let respaced := "params.x\t>\u30001\r\n&&  params.y"
    groups source = [["params.x", ">", "1"], ["&&", "params.y"]] ∧
      Spaced (groups source).flatten respaced ∧ groups respaced = groups source := by
  intro source respaced
  have hgroups : groups source = [["params.x", ">", "1"], ["&&", "params.y"]] := by decide
  have hspaced : Spaced (groups source).flatten respaced := by
    rw [hgroups]
    have htext : respaced = "params.x" ++ "\t" ++ (">" ++ "\u3000" ++ ("1" ++ "\r\n" ++
        ("&&" ++ "  " ++ "params.y"))) := by decide
    rw [htext]
    refine .cons ?_ ?_ ?_ (.cons ?_ ?_ ?_ (.cons ?_ ?_ ?_ (.cons ?_ ?_ ?_ (.single "params.y")))) <;>
      decide
  exact ⟨hgroups, hspaced, (segmented_script source .and).2.1 respaced hspaced⟩

end TriggerCompose.Condition