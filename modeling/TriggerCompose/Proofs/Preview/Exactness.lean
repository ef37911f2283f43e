import TriggerCompose.Proofs.Json.Record
import TriggerCompose.Proofs.Preview.Remainder

/-!
# Synthesized counts are computed exactly

The counts of a synthesized series are numbers without a size, and are held on words: the
shares are worked out on words of 128 bits and narrowed to 64, and the correction takes what
is missing or too much back onto them. Here every operation is done on a word and refuses a
result that does not fit. For every total and every number of buckets below `2 ^ 60`, no
operation refuses, and the counts are those of the series.

## Main definitions

* `Preview.share?`, `Preview.reconcile?`, `Preview.counts?`: the counts, worked out on words.
* `Preview.ExactCounts`: the bounds that keep every operation on its word.

## Main statements

* `Preview.share?_eq_some`: the shares.
* `Preview.takeBack?_eq_some`: the walk over the counts, one step at a time.
* `Preview.reconcile?_eq_some`: the correction of any counts.
* `Preview.exactCounts_synthesize`: the series.
-/

namespace TriggerCompose.Preview

/-! ### Counts on words -/

/-- A value on a word of some bits, if it fits. -/
def onWord? (bits value : Nat) : Option Nat :=
  if value < 2 ^ bits then some value else none

/-- A difference, unless it is below zero. -/
def minus? (a b : Nat) : Option Nat :=
  if b ≤ a then some (a - b) else none

/-- A quotient, unless the divisor is zero. -/
def over? (a b : Nat) : Option Nat :=
  if b = 0 then none else some (a / b)

/-- The share of a bucket, on words of 128 bits, and then on one of 64. -/
def share? (total : UInt64) (n weight : Nat) : Option UInt64 := do
  let den ← over? (← onWord? 128 (n * (← onWord? 128 (n + 1)))) 2
  let num ← onWord? 128 (total.toNat * weight)
  let rounded ← onWord? 128 ((← onWord? 128 (2 * num)) + den)
  let share ← over? rounded (← onWord? 128 (2 * den))
  return UInt64.ofNat (← onWord? 64 share)

/-- The sum of counts, on a word of 128 bits. -/
def sum? (counts : List UInt64) : Option Nat :=
  counts.foldlM (fun sum count => onWord? 128 (sum + count.toNat)) 0

/-- Adds what is missing to the newest of some counts, which come newest first. -/
def raise? (missing : Nat) : List UInt64 → Option (List UInt64)
  | [] => some []
  | newest :: older => do
    let raised ← onWord? 64 (newest.toNat + (← onWord? 64 missing))
    return UInt64.ofNat raised :: older

/-- Takes an excess away from counts, which come newest first, until none is left. -/
def takeBack? (excess : Nat) : List UInt64 → Option (Nat × List UInt64)
  | [] => some (excess, [])
  | newest :: older =>
    if excess = 0 then some (0, newest :: older)
    else do
      let taken := min excess newest.toNat
      let left ← minus? newest.toNat (← onWord? 64 taken)
      let (excess, older) ← takeBack? (← minus? excess taken) older
      return (excess, UInt64.ofNat left :: older)

/-- Counts corrected to add up to a total. An excess has to be gone in the end. -/
def reconcile? (counts : List UInt64) (total : UInt64) : Option (List UInt64) := do
  let sum ← sum? counts
  if sum < total.toNat then
    let newestFirst ← raise? (← minus? total.toNat sum) counts.reverse
    return newestFirst.reverse
  else
    let (excess, newestFirst) ← takeBack? (← minus? sum total.toNat) counts.reverse
    if excess = 0 then return newestFirst.reverse else none

/-- The counts of `n` buckets for a total. -/
def counts? (total : UInt64) (n : Nat) : Option (List UInt64) := do
  reconcile? (← (List.range n).mapM fun i => share? total n (i + 1)) total

theorem onWord?_of_lt {bits value : Nat} (h : value < 2 ^ bits) : onWord? bits value = some value :=
  if_pos h

theorem minus?_of_le {a b : Nat} (h : b ≤ a) : minus? a b = some (a - b) :=
  if_pos h

theorem over?_of_pos (a : Nat) {b : Nat} (h : 0 < b) : over? a b = some (a / b) :=
  if_neg (Nat.ne_of_gt h)

/-! ### Shares -/

section Shares

variable {n : Nat} (hn : 0 < n) (hsmall : n < 2 ^ 60)
include hn hsmall

theorem weights_lt : n * (n + 1) < 2 ^ 128 := by
  have hle : n * (n + 1) ≤ 2 ^ 60 * 2 ^ 60 := Nat.mul_le_mul (by omega) (by omega)
  omega

theorem rounded_lt (total : UInt64) {weight : Nat} (hweight : weight ≤ n) :
    2 * (total.toNat * weight) + weightSum n < 2 ^ 128 := by
  have htotal := total.toNat_lt
  have hproduct : total.toNat * weight ≤ 2 ^ 64 * 2 ^ 60 := Nat.mul_le_mul (by omega) (by omega)
  have hweights : 2 * weightSum n ≤ 2 ^ 60 * 2 ^ 60 := by
    rw [two_mul_weightSum]
    exact Nat.mul_le_mul (by omega) (by omega)
  omega

/-- Working out a share on words gives the share, and the largest word never stands in for it. -/
theorem share?_eq_some (total : UInt64) {weight : Nat} (hweight : weight ≤ n) :
    share? total n weight = some (UInt64.ofNatClamp (share total.toNat n weight)) := by
  have hweights := weights_lt hn hsmall
  have hrounded := rounded_lt hn hsmall total hweight
  have hdivisor := two_mul_weightSum n
  have hpos := weightSum_pos hn
  have hden : over? (n * (n + 1)) 2 = some (weightSum n) := over?_of_pos _ (by decide)
  have hshare : share total.toNat n weight < 2 ^ 64 :=
    Nat.lt_of_le_of_lt (share_le total.toNat hn hweight) total.toNat_lt
  have hquotient : over? (2 * (total.toNat * weight) + weightSum n) (2 * weightSum n) =
      some (share total.toNat n weight) := over?_of_pos _ (by omega)
  have hword : UInt64.ofNat (share total.toNat n weight) =
      UInt64.ofNatClamp (share total.toNat n weight) := by
    refine UInt64.toNat_inj.mp ?_
    rw [UInt64.toNat_ofNat_of_lt' hshare, UInt64.toNat_ofNatClamp_of_lt hshare]
  simp only [share?, Option.bind_eq_bind, onWord?_of_lt (show n + 1 < 2 ^ 128 by omega),
    onWord?_of_lt hweights, hden, onWord?_of_lt (show total.toNat * weight < 2 ^ 128 by omega),
    onWord?_of_lt (show 2 * (total.toNat * weight) < 2 ^ 128 by omega), onWord?_of_lt hrounded,
    onWord?_of_lt (show 2 * weightSum n < 2 ^ 128 by omega), hquotient, onWord?_of_lt hshare,
    Option.bind_some, hword]
  rfl

end Shares

theorem shares?_eq_some (total : UInt64) {n : Nat} (hn : 0 < n) (hsmall : n < 2 ^ 60) :
    ((List.range n).mapM fun i => share? total n (i + 1)) = some (shares total n) := by
  rw [shares, Json.Document.mapM_eq_some_iff, List.forall₂_map_right_iff, List.forall₂_same]
  intro i hi
  exact share?_eq_some hn hsmall total (List.mem_range.mp hi)

/-! ### The correction -/

theorem foldlM_sum_eq_some {counts : List UInt64} {sum : Nat}
    (hfits : sum + exactSum counts < 2 ^ 128) :
    counts.foldlM (fun sum count => onWord? 128 (sum + count.toNat)) sum =
      some (sum + exactSum counts) := by
  induction counts generalizing sum with
  | nil => rfl
  | cons count counts ih =>
    rw [exactSum_cons, ← Nat.add_assoc] at hfits ⊢
    rw [List.foldlM_cons, onWord?_of_lt (by omega)]
    exact ih hfits

theorem sum?_eq_some {counts : List UInt64} (hfits : exactSum counts < 2 ^ 128) :
    sum? counts = some (exactSum counts) := by
  have hsum := @foldlM_sum_eq_some counts 0 (by omega)
  rwa [Nat.zero_add] at hsum

/-- Neither what is missing nor the raised count is cut off. -/
theorem raise?_eq_some {older : List UInt64} {newest : UInt64} {missing : Nat}
    (hfits : newest.toNat + missing < 2 ^ 64) :
    raise? missing (newest :: older) = some (addCounts newest (UInt64.ofNat missing) :: older) := by
  have hmissing : (UInt64.ofNat missing).toNat = missing :=
    UInt64.toNat_ofNat_of_lt' (Nat.lt_of_le_of_lt (Nat.le_add_left _ _) hfits)
  have hraised : UInt64.ofNat (newest.toNat + missing) = addCounts newest (UInt64.ofNat missing) := by
    refine UInt64.toNat_inj.mp ?_
    rw [UInt64.toNat_ofNat_of_lt' hfits, addCounts, hmissing, UInt64.toNat_ofNatClamp_of_lt hfits]
  simp only [raise?, Option.bind_eq_bind, onWord?_of_lt (show missing < 2 ^ 64 by omega),
    onWord?_of_lt hfits, Option.bind_some, hraised]
  rfl

/-- The walk from the end takes from the last count first, and goes on with what is left. -/
theorem takeFromEnd_concat (excess : Nat) (older : List UInt64) (newest : UInt64) :
    takeFromEnd excess (older ++ [newest]) =
      ((takeFromEnd (excess - min excess newest.toNat) older).1,
        (takeFromEnd (excess - min excess newest.toNat) older).2 ++
          [UInt64.ofNat (newest.toNat - min excess newest.toNat)]) := by
  induction older with
  | nil => rfl
  | cons count older ih => simp [takeFromEnd, ih]

theorem takeFromEnd_zero (counts : List UInt64) : takeFromEnd 0 counts = (0, counts) := by
  have hnone : (takeFromEnd 0 []).1 = 0 := rfl
  have hwalk := takeFromEnd_append hnone counts
  rwa [List.append_nil, takeFromEnd, List.append_nil] at hwalk

/-- The walk over the counts, newest first, is the walk from their end. No step takes more than
    the count has or than there is to take, and what it takes fits a word. -/
theorem takeBack?_eq_some (excess : Nat) (newestFirst : List UInt64) :
    takeBack? excess newestFirst =
      some ((takeFromEnd excess newestFirst.reverse).1,
        (takeFromEnd excess newestFirst.reverse).2.reverse) := by
  induction newestFirst generalizing excess with
  | nil => rfl
  | cons newest older ih =>
    rw [takeBack?]
    by_cases hnone : excess = 0
    · rw [if_pos hnone, hnone, takeFromEnd_zero, List.reverse_reverse]
    · have htaken : min excess newest.toNat < 2 ^ 64 :=
        Nat.lt_of_le_of_lt (Nat.min_le_right _ _) newest.toNat_lt
      rw [if_neg hnone, List.reverse_cons, takeFromEnd_concat]
      simp only [Option.bind_eq_bind, onWord?_of_lt htaken,
        minus?_of_le (Nat.min_le_right excess newest.toNat),
        minus?_of_le (Nat.min_le_left excess newest.toNat), Option.bind_some, ih,
        List.reverse_append]
      rfl

/-- Counts whose sum fits a word of 128 bits are corrected on words as they are without. -/
theorem reconcile?_eq_some {counts : List UInt64} (total : UInt64) (hne : counts ≠ [])
    (hfits : exactSum counts < 2 ^ 128) :
    reconcile? counts total = some (reconcile counts total) := by
  have htotal := total.toNat_lt
  simp only [reconcile?, Option.bind_eq_bind, sum?_eq_some hfits, Option.bind_some]
  by_cases hshort : exactSum counts < total.toNat
  · obtain ⟨older, newest, rfl⟩ : ∃ older newest, counts = older ++ [newest] :=
      ⟨_, _, (List.dropLast_append_getLast hne).symm⟩
    have hsum : exactSum (older ++ [newest]) = exactSum older + newest.toNat := by
      rw [exactSum_append]
      rfl
    have hraised : newest.toNat + (total.toNat - exactSum (older ++ [newest])) < 2 ^ 64 := by
      omega
    rw [if_pos hshort, minus?_of_le hshort.le, Option.bind_some, List.reverse_append,
      List.reverse_singleton, List.singleton_append, raise?_eq_some hraised, Option.bind_some,
      reconcile_of_lt hshort, addToLast_append, List.reverse_cons, List.reverse_reverse]
    rfl
  · have hlong : total.toNat ≤ exactSum counts := Nat.le_of_not_lt hshort
    obtain ⟨hgone, -⟩ := exactSum_takeFromEnd (Nat.sub_le (exactSum counts) total.toNat)
    rw [if_neg hshort, minus?_of_le hlong, Option.bind_some, takeBack?_eq_some,
      List.reverse_reverse, Option.bind_some, hgone, if_pos rfl, List.reverse_reverse,
      reconcile_of_le hlong]
    rfl

/-! ### The series -/

/-- The counts of `n` buckets for a total are worked out exactly: the sum of the weights is not
    zero, no number along the way is too large for its word, and none is cut off. -/
structure ExactCounts (total : UInt64) (n : Nat) (counts : List UInt64) : Prop where
  weightSum_pos : 0 < weightSum n
  weights_lt : n * (n + 1) < 2 ^ 128
  product_lt : ∀ weight, 1 ≤ weight → weight ≤ n → total.toNat * weight < 2 ^ 128
  rounded_lt : ∀ weight, 1 ≤ weight → weight ≤ n →
    2 * (total.toNat * weight) + weightSum n < 2 ^ 128
  share_le : ∀ weight, 1 ≤ weight → weight ≤ n → share total.toNat n weight ≤ total.toNat
  /-- The largest word stands in for no share. -/
  narrowed : (shares total n).map UInt64.toNat =
    (List.range n).map fun i => share total.toNat n (i + 1)
  sum_lt : exactSum (shares total n) < 2 ^ 128
  /-- What is missing is narrowed without loss, and raises the newest share in full. -/
  raised : ∀ missing newest, exactSum (shares total n) + missing = total.toNat →
    (shares total n).getLast? = some newest → (UInt64.ofNat missing).toNat = missing ∧
      (addCounts newest (UInt64.ofNat missing)).toNat = newest.toNat + missing
  /-- Wherever the walk from the end comes to, what it takes is narrowed without loss, and leaves
      a count that is not below zero. -/
  lowered : ∀ older count newer, shares total n = older ++ count :: newer →
    let excess := (takeFromEnd (exactSum (shares total n) - total.toNat) newer).1
    let taken := min excess count.toNat
    (UInt64.ofNat taken).toNat = taken ∧
      (UInt64.ofNat (count.toNat - taken)).toNat + taken = count.toNat
  /-- The walk from the end takes the whole excess. -/
  excess_gone : (takeFromEnd (exactSum (shares total n) - total.toNat) (shares total n)).1 = 0
  /-- No operation on words refuses its result. -/
  onWords : counts? total n = some counts

/-- For every total and every positive number of buckets below `2 ^ 60`, the counts of the
    synthesized series are worked out exactly. -/
theorem exactCounts_synthesize (total : UInt64) (n : Nat) (interval now : Int64) (hn : 0 < n)
    (hsmall : n < 2 ^ 60) :
    ExactCounts total n ((synthesize total n interval now).buckets.map (·.docCount)) := by
  have htotal := total.toNat_lt
  have hsum := exactSum_shares total hn
  have hramp := rampSum_le total.toNat hn
  have hnewest := share_le total.toNat hn le_rfl
  have hfits : exactSum (shares total n) < 2 ^ 128 := by omega
  have hrounded := fun weight => @rounded_lt n hn hsmall total weight
  refine ⟨weightSum_pos hn, weights_lt hn hsmall, ?_, fun weight _ => hrounded weight,
    fun weight _ => share_le total.toNat hn, ?_, hfits, ?_, ?_, ?_, ?_⟩
  · intro weight _ hweight
    have := hrounded weight hweight
    omega
  · rw [shares, List.map_map]
    exact List.map_congr_left fun i hi => toNat_share total hn (List.mem_range.mp hi)
  · intro missing newest hmissing hlast
    rw [shares_eq_append total hn, List.getLast?_concat, Option.some.injEq] at hlast
    have hlt : missing < UInt64.size := Nat.lt_of_le_of_lt (by omega) htotal
    have hword := UInt64.toNat_ofNat_of_lt' hlt
    refine ⟨hword, ?_⟩
    rw [← hlast, addCounts, hword, toNat_share total hn le_rfl]
    exact UInt64.toNat_ofNatClamp_of_lt (Nat.lt_of_le_of_lt (by omega) htotal)
  · intro older count newer _ excess taken
    have hcount : count.toNat < UInt64.size := count.toNat_lt
    have htaken : taken ≤ count.toNat := Nat.min_le_right _ _
    refine ⟨UInt64.toNat_ofNat_of_lt' (by omega), ?_⟩
    rw [UInt64.toNat_ofNat_of_lt' (by omega), Nat.sub_add_cancel htaken]
  · exact (exactSum_takeFromEnd (Nat.sub_le _ _)).1
  · have hne : shares total n ≠ [] := by
      rw [shares_eq_append total hn]
      exact List.append_ne_nil_of_right_ne_nil _ (List.cons_ne_nil _ _)
    rw [counts?, shares?_eq_some total hn hsmall, map_docCount_synthesize]
    exact reconcile?_eq_some total hne hfits

/-- The largest total, in the largest number of buckets. -/
theorem exactCounts_synthesize_largest :
    0 < 2 ^ 60 - 1 ∧ 2 ^ 60 - 1 < 2 ^ 60 ∧
      ExactCounts 18446744073709551615 (2 ^ 60 - 1)
        ((synthesize 18446744073709551615 (2 ^ 60 - 1) 3600000 0).buckets.map (·.docCount)) :=
  ⟨by decide, by decide, exactCounts_synthesize _ _ 3600000 0 (by decide) (by decide)⟩

end TriggerCompose.Preview
