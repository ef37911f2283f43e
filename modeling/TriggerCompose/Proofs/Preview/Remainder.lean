import TriggerCompose.Proofs.Preview.Synthesis
import Mathlib.Algebra.BigOperators.Ring.Finset
import Mathlib.Data.Rat.Floor
import Mathlib.Tactic.Linarith

/-!
# The newest bucket takes the whole remainder

The shares of a synthesized series are rounded one by one, so they need not add up to the
total. The shares of all but the newest bucket never exceed it, whatever was rounded up, and
so the newest bucket alone makes up for the difference.

## Main definitions

* `Preview.roundedShare`: the share of a bucket, rounded half up.
* `Preview.remainder`: what the rounded shares miss.
* `Preview.SingleRemainder`: a series in which the newest bucket takes the remainder.

## Main statements

* `Preview.roundedShare_eq`: the shares are rounded half up.
* `Preview.ramp_step`, `Preview.ramp_bound`: the sum of the shares so far.
* `Preview.rampSum_le`: the older shares do not exceed the total.
* `Preview.singleRemainder_synthesize`: the series.
-/

namespace TriggerCompose.Preview

/-! ### Rounded shares -/

theorem two_mul_weightSum (n : Nat) : 2 * weightSum n = n * (n + 1) :=
  Nat.mul_div_cancel' (Nat.even_mul_succ_self n).two_dvd

/-- The exact share of the bucket of a weight. -/
def exactShare (total n weight : Nat) : ℚ :=
  total * (2 * weight) / (n * (n + 1))

/-- The share of the bucket of a weight, rounded to the nearest whole number, a half going up. -/
def roundedShare (total n weight : Nat) : ℤ :=
  round (exactShare total n weight)

theorem roundedShare_eq (total weight : Nat) {n : Nat} (hn : 0 < n) :
    roundedShare total n weight = share total n weight := by
  have hweights : 2 * (weightSum n : ℚ) = n * (n + 1) := by
    exact_mod_cast two_mul_weightSum n
  have hpos : (0 : ℚ) < n * (n + 1) := by
    exact_mod_cast Nat.mul_pos hn n.succ_pos
  have hhalf : exactShare total n weight + 1 / 2 =
      ((2 * (total * weight) + weightSum n : Nat) : ℚ) / ((2 * weightSum n : Nat) : ℚ) := by
    push_cast
    rw [exactShare, hweights]
    field_simp
    linarith
  rw [roundedShare, round_eq, hhalf, Rat.floor_natCast_div_natCast, share]
  push_cast
  rfl

theorem weightSum_pos {n : Nat} (hn : 0 < n) : 0 < weightSum n := by
  have hweights := two_mul_weightSum n
  have hpos : 0 < n * (n + 1) := Nat.mul_pos hn n.succ_pos
  omega

theorem share_eq_zero {total weight : Nat} (n : Nat) (h : total * weight = 0) :
    share total n weight = 0 := by
  rw [share, h, Nat.mul_zero, Nat.zero_add, Nat.div_eq_zero_iff]
  omega

theorem share_mono (total n : Nat) {weight more : Nat} (h : weight ≤ more) :
    share total n weight ≤ share total n more := by
  have hmul : total * weight ≤ total * more := Nat.mul_le_mul_left total h
  exact Nat.div_le_div_right (by omega)

/-- Rounding up adds at most a half. -/
theorem share_mul_le (total n weight : Nat) :
    share total n weight * (2 * weightSum n) ≤ 2 * (total * weight) + weightSum n :=
  Nat.div_mul_le_self _ _

/-- No share exceeds the total. -/
theorem share_le {n weight : Nat} (total : Nat) (hn : 0 < n) (hweight : weight ≤ n) :
    share total n weight ≤ total := by
  have hpos := weightSum_pos hn
  have hle : weight ≤ weightSum n := by
    have hweights := two_mul_weightSum n
    nlinarith
  have hmul : total * weight ≤ total * weightSum n := Nat.mul_le_mul_left total hle
  apply Nat.le_of_lt_succ
  rw [share, Nat.div_lt_iff_lt_mul (by omega)]
  nlinarith

/-! ### The sum of the older shares -/

/-- The sum of the shares of all weights below one. -/
def rampSum (total n weight : Nat) : Nat :=
  ((List.range weight).map (share total n)).sum

theorem rampSum_succ (total n weight : Nat) :
    rampSum total n (weight + 1) = rampSum total n weight + share total n weight := by
  rw [rampSum, List.range_succ, List.map_append, List.sum_append]
  simp [rampSum]

/-- From a weight to the next the bound of `ramp_bound` is kept: where the share grows by
    `more`, each unit of growth is paid for by the exact share of the next weight. -/
theorem ramp_step {total den sum share more weight : Nat}
    (hbound : 2 * total * sum + den * share ^ 2 ≤ 2 * total * share * weight)
    (hnext : (share + more) * (2 * den) ≤ 2 * (total * (weight + 1)) + den) :
    2 * total * (sum + share) + den * (share + more) ^ 2 ≤
      2 * total * (share + more) * (weight + 1) := by
  rcases Nat.eq_zero_or_pos more with rfl | hmore
  · nlinarith
  · have hunit : den * (2 * share + more) ≤ 2 * (total * (weight + 1)) := by
      nlinarith
    have hgrowth := Nat.mul_le_mul_left more hunit
    nlinarith

/-- The shares up to a weight lie below a ramp: their sum is bounded by the share of that
    weight alone, through the square that completes it. -/
theorem ramp_bound (total n weight : Nat) :
    2 * total * rampSum total n weight + weightSum n * share total n weight ^ 2 ≤
      2 * total * share total n weight * weight := by
  induction weight with
  | zero => simp [share_eq_zero n (Nat.mul_zero total), rampSum]
  | succ weight ih =>
    obtain ⟨more, hmore⟩ := Nat.exists_eq_add_of_le (share_mono total n weight.le_succ)
    have hnext := share_mul_le total n (weight + 1)
    rw [rampSum_succ, hmore] at *
    exact ramp_step ih hnext

/-- The shares of the older buckets do not exceed the total. -/
theorem rampSum_le {n : Nat} (total : Nat) (hn : 0 < n) : rampSum total n n ≤ total := by
  rcases Nat.eq_zero_or_pos total with rfl | htotal
  · have hzero : rampSum 0 n n = 0 := by
      refine List.sum_eq_zero fun s hs => ?_
      obtain ⟨weight, -, rfl⟩ := List.mem_map.mp hs
      exact share_eq_zero n (Nat.zero_mul weight)
    rw [hzero]
  · have hbound := ramp_bound total n n
    have hweights := two_mul_weightSum n
    generalize share total n n = last at hbound
    generalize weightSum n = den at hbound hweights
    -- Completing the square, the bound no longer knows the last share.
    have hsquare : 2 * (total * n) * (den * last) ≤ (total * n) ^ 2 + (den * last) ^ 2 :=
      two_mul_le_add_sq _ _
    have hsum : total * (n * (n + 1)) * rampSum total n n ≤ total * n * (total * n) := by
      rw [← hweights]
      nlinarith [Nat.mul_le_mul_left den hbound]
    have hcancel : (n + 1) * rampSum total n n ≤ total * n := by
      refine Nat.le_of_mul_le_mul_left ?_ (Nat.mul_pos htotal hn)
      linarith
    refine Nat.le_of_mul_le_mul_left ?_ n.succ_pos
    rw [Nat.succ_eq_add_one]
    linarith

/-! ### The correction -/

theorem exactSum_append (a b : List UInt64) : exactSum (a ++ b) = exactSum a + exactSum b := by
  induction a with
  | nil => simp [exactSum]
  | cons count a ih => rw [List.cons_append, exactSum_cons, exactSum_cons, ih, Nat.add_assoc]

theorem addToLast_append (missing : Nat) (older : List UInt64) (last : UInt64) :
    addToLast missing (older ++ [last]) = older ++ addToLast missing [last] := by
  induction older with
  | nil => rfl
  | cons count older ih =>
    cases older with
    | nil => rfl
    | cons next older =>
      rw [List.cons_append, List.cons_append, addToLast_cons_cons, ← List.cons_append, ih]
      rfl

/-- The walk from the end does not come to counts behind which nothing is left to take. -/
theorem takeFromEnd_append {excess : Nat} {newest : List UInt64}
    (hnewest : (takeFromEnd excess newest).1 = 0) (older : List UInt64) :
    takeFromEnd excess (older ++ newest) = (0, older ++ (takeFromEnd excess newest).2) := by
  induction older with
  | nil => rw [List.nil_append, List.nil_append, ← hnewest]
  | cons count older ih => simp [takeFromEnd, ih]

theorem takeFromEnd_singleton {excess : Nat} {last : UInt64} (h : excess ≤ last.toNat) :
    (takeFromEnd excess [last]).1 = 0 := by
  simp [takeFromEnd, h]

/-- Where the older counts do not exceed the total, only the last one is corrected. -/
theorem exists_reconcile_append {older : List UInt64} {last total : UInt64}
    (holder : exactSum older ≤ total.toNat) :
    ∃ newest : UInt64, reconcile (older ++ [last]) total = older ++ [newest] ∧
      newest.toNat = total.toNat - exactSum older := by
  have hsum : exactSum (older ++ [last]) = exactSum older + last.toNat := by
    rw [exactSum_append]
    rfl
  have hkept : ∃ newest : UInt64, reconcile (older ++ [last]) total = older ++ [newest] := by
    rcases Nat.lt_or_ge (exactSum (older ++ [last])) total.toNat with hshort | hlong
    · rw [reconcile_of_lt hshort, addToLast_append]
      exact ⟨_, rfl⟩
    · have hcovered : exactSum (older ++ [last]) - total.toNat ≤ last.toNat := by omega
      rw [reconcile_of_le hlong, takeFromEnd_append (takeFromEnd_singleton hcovered)]
      exact ⟨_, rfl⟩
  obtain ⟨newest, hnewest⟩ := hkept
  refine ⟨newest, hnewest, ?_⟩
  have htotal := exactSum_reconcile (List.append_ne_nil_of_right_ne_nil older (List.cons_ne_nil last [])) total
  rw [hnewest, exactSum_append] at htotal
  have hone : exactSum [newest] = newest.toNat := rfl
  omega

/-! ### The series -/

/-- What the rounded shares of `n` buckets miss of the total; below zero, what they have too
    much. -/
def remainder (total n : Nat) : ℤ :=
  total - ((List.range n).map fun i => roundedShare total n (i + 1)).sum

theorem toNat_share {n weight : Nat} (total : UInt64) (hn : 0 < n) (hweight : weight ≤ n) :
    (UInt64.ofNatClamp (share total.toNat n weight)).toNat = share total.toNat n weight := by
  have hle := share_le total.toNat hn hweight
  have htotal := total.toNat_lt
  rw [Number.toNat_ofNatClamp]
  simp only [UInt64.size]
  omega

/-- The shares of the older buckets. -/
def olderShares (total : UInt64) (n : Nat) : List UInt64 :=
  (List.range (n - 1)).map fun i => UInt64.ofNatClamp (share total.toNat n (i + 1))

theorem shares_eq_append (total : UInt64) {n : Nat} (hn : 0 < n) :
    shares total n = olderShares total n ++ [UInt64.ofNatClamp (share total.toNat n n)] := by
  have hsucc : n - 1 + 1 = n := Nat.sub_add_cancel hn
  have hrange : List.range n = List.range (n - 1) ++ [n - 1] := by
    rw [← List.range_succ, Nat.succ_eq_add_one, hsucc]
  rw [shares, hrange, List.map_append, List.map_singleton, hsucc]
  rfl

theorem map_toNat_olderShares (total : UInt64) (n : Nat) :
    (olderShares total n).map UInt64.toNat =
      (List.range (n - 1)).map fun i => share total.toNat n (i + 1) := by
  rw [olderShares, List.map_map]
  refine List.map_congr_left fun i hi => ?_
  rw [List.mem_range] at hi
  exact toNat_share total (by omega) (by omega)

theorem exactSum_eq_sum (counts : List UInt64) : exactSum counts = (counts.map UInt64.toNat).sum := by
  induction counts with
  | nil => rfl
  | cons count counts ih => rw [exactSum_cons, ih, List.map_cons, List.sum_cons]

theorem rampSum_eq (total n weight : Nat) :
    rampSum total n (weight + 1) =
      ((List.range weight).map fun i => share total n (i + 1)).sum := by
  rw [rampSum, List.range_succ_eq_map, List.map_cons, List.sum_cons, List.map_map,
    share_eq_zero n (Nat.mul_zero total), Nat.zero_add]
  rfl

theorem exactSum_olderShares (total : UInt64) {n : Nat} (hn : 0 < n) :
    exactSum (olderShares total n) = rampSum total.toNat n n := by
  have hsucc : n - 1 + 1 = n := Nat.sub_add_cancel hn
  rw [exactSum_eq_sum, map_toNat_olderShares, ← rampSum_eq, hsucc]

theorem exactSum_shares (total : UInt64) {n : Nat} (hn : 0 < n) :
    exactSum (shares total n) = rampSum total.toNat n n + share total.toNat n n := by
  rw [shares_eq_append total hn, exactSum_append, exactSum_olderShares total hn, exactSum_cons,
    toNat_share total hn le_rfl]
  rfl

theorem pairwise_olderShares (total : UInt64) (n : Nat) :
    (olderShares total n).Pairwise (· ≤ ·) := by
  have hnat : ((olderShares total n).map UInt64.toNat).Pairwise (· ≤ ·) := by
    rw [map_toNat_olderShares, List.pairwise_map]
    exact List.pairwise_lt_range.imp fun hij => share_mono total.toNat n (by omega)
  exact (List.pairwise_map.mp hnat).imp fun h => UInt64.le_iff_toNat_le.mpr h

theorem le_share_of_mem_olderShares {total count : UInt64} {n : Nat}
    (hcount : count ∈ olderShares total n) : count.toNat ≤ share total.toNat n n := by
  have hmem : count.toNat ∈ (olderShares total n).map UInt64.toNat := List.mem_map_of_mem hcount
  rw [map_toNat_olderShares] at hmem
  obtain ⟨i, hi, hshare⟩ := List.mem_map.mp hmem
  rw [List.mem_range] at hi
  rw [← hshare]
  exact share_mono total.toNat n (by omega)

theorem map_roundedShare (total weight : Nat) {n : Nat} (hn : 0 < n) :
    ((List.range weight).map fun i => roundedShare total n (i + 1)) =
      ((List.range weight).map fun i => share total n (i + 1)).map Nat.cast := by
  rw [List.map_map]
  exact List.map_congr_left fun i _ => roundedShare_eq total (i + 1) hn

theorem remainder_eq (total : Nat) {n : Nat} (hn : 0 < n) :
    remainder total n = total - rampSum total n n - share total n n := by
  rw [remainder, map_roundedShare total n hn, ← Nat.cast_list_sum, ← rampSum_eq, rampSum_succ]
  omega

/-- A series for a total whose counts are the rounded shares, except for the newest bucket,
    which takes the whole remainder. -/
structure SingleRemainder (total : UInt64) (n : Nat) (s : Series) : Prop where
  counts : s.buckets.map (fun b => (b.docCount.toNat : ℤ)) =
    ((List.range (n - 1)).map fun i => roundedShare total.toNat n (i + 1)) ++
      [roundedShare total.toNat n n + remainder total.toNat n]
  /-- What the shares have too much, the newest share covers. -/
  covered : -remainder total.toNat n ≤ roundedShare total.toNat n n
  /-- The walk from the end has nothing left to take behind the newest share. -/
  walk : ∀ newest, (shares total n).getLast? = some newest →
    (takeFromEnd (exactSum (shares total n) - total.toNat) [newest]).1 = 0
  ascending : (s.buckets.map (·.docCount)).dropLast.Pairwise (· ≤ ·)
  ascendingToNewest : 0 ≤ remainder total.toNat n →
    (s.buckets.map (·.docCount)).Pairwise (· ≤ ·)

theorem walk_shares {total newest : UInt64} {n : Nat} (hn : 0 < n)
    (hnewest : (shares total n).getLast? = some newest) :
    (takeFromEnd (exactSum (shares total n) - total.toNat) [newest]).1 = 0 := by
  have holder := rampSum_le total.toNat hn
  have hsum := exactSum_shares total hn
  rw [shares_eq_append total hn, List.getLast?_concat, Option.some.injEq] at hnewest
  apply takeFromEnd_singleton
  rw [← hnewest, toNat_share total hn le_rfl]
  omega

/-- The series for a total follows the rule of a single remainder, for every total and every
    positive number of buckets. -/
theorem singleRemainder_synthesize (total : UInt64) (n : Nat) (interval now : Int64)
    (hn : 0 < n) : SingleRemainder total n (synthesize total n interval now) := by
  have holder : exactSum (olderShares total n) ≤ total.toNat := by
    rw [exactSum_olderShares total hn]
    exact rampSum_le total.toNat hn
  obtain ⟨newest, hreconcile, hnewest⟩ :=
    @exists_reconcile_append _ (UInt64.ofNatClamp (share total.toNat n n)) total holder
  have hcounts : (synthesize total n interval now).buckets.map (·.docCount) =
      olderShares total n ++ [newest] := by
    rw [map_docCount_synthesize, shares_eq_append total hn, hreconcile]
  have hremainder := remainder_eq total.toNat hn
  have hshare := roundedShare_eq total.toNat n hn
  rw [exactSum_olderShares total hn] at holder hnewest
  refine ⟨?_, ?_, fun _ => walk_shares hn, ?_, ?_⟩
  · have hnewestShare : (newest.toNat : ℤ) =
        roundedShare total.toNat n n + remainder total.toNat n := by omega
    have hmap : (synthesize total n interval now).buckets.map (fun b => (b.docCount.toNat : ℤ)) =
        ((olderShares total n ++ [newest]).map UInt64.toNat).map Nat.cast := by
      rw [← hcounts, List.map_map, List.map_map]
      rfl
    rw [hmap, List.map_append, List.map_append, map_toNat_olderShares,
      ← map_roundedShare _ _ hn, ← hnewestShare]
    rfl
  · omega
  · rw [hcounts, List.dropLast_concat]
    exact pairwise_olderShares total n
  · intro hnonneg
    rw [hcounts, List.pairwise_append]
    refine ⟨pairwise_olderShares total n, List.pairwise_singleton _ _, ?_⟩
    intro count hcount last hlast
    rw [List.mem_singleton.mp hlast, UInt64.le_iff_toNat_le]
    have hle := le_share_of_mem_olderShares hcount
    omega

/-- Two of three shares of the total 3 are exact halves and go up, so that the newest bucket
    gives one back. -/
theorem singleRemainder_synthesize_halves :
    let s := synthesize 3 3 3600000 1700000000000
    0 < 3 ∧ shares 3 3 = [1, 1, 2] ∧ s.buckets.map (·.docCount) = [1, 1, 1] ∧
      SingleRemainder 3 3 s :=
  ⟨by decide, by decide +kernel, by decide +kernel, singleRemainder_synthesize 3 3 _ _ (by decide)⟩

end TriggerCompose.Preview
