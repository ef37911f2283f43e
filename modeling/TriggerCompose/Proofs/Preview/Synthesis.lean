import TriggerCompose.Preview.Synthesis
import TriggerCompose.Proofs.Number.Clamp

/-!
# Synthesized series keep their total

The counts of a synthesized series add up to its total exactly, whatever the errors
of rounding were, and its keys step back from the newest one in whole intervals as
far as the signed words reach.

## Main definitions

* `Preview.Synthesized`: what a synthesized series is like.

## Main statements

* `Preview.exactSum_takeFromEnd`: an excess that the counts cover is taken away.
* `Preview.exactSum_reconcile`: corrected counts add up to the total.
* `Preview.toInt_stepKey`: the key of a bucket.
* `Preview.synthesized_synthesize`: the series.
-/

namespace TriggerCompose.Preview

/-! ### Sums of counts -/

theorem exactSum_cons (count : UInt64) (counts : List UInt64) :
    exactSum (count :: counts) = count.toNat + exactSum counts :=
  rfl

theorem toNat_addCounts (a b : UInt64) :
    (addCounts a b).toNat = min (a.toNat + b.toNat) (UInt64.size - 1) :=
  Number.toNat_ofNatClamp _

theorem addToLast_cons_cons (missing : Nat) (count next : UInt64) (rest : List UInt64) :
    addToLast missing (count :: next :: rest) = count :: addToLast missing (next :: rest) :=
  rfl

/-- Adding to the last count adds to the sum, since the last count stays within a word
    when the whole sum does. -/
theorem exactSum_addToLast {missing : Nat} {counts : List UInt64} (hne : counts ≠ [])
    (hfits : exactSum counts + missing < UInt64.size) :
    exactSum (addToLast missing counts) = exactSum counts + missing := by
  induction counts with
  | nil => contradiction
  | cons count rest ih =>
    rw [exactSum_cons] at hfits ⊢
    cases rest with
    | nil =>
      -- Neither what is missing nor the new count is cut off.
      have hmissing : (UInt64.ofNat missing).toNat = missing :=
        UInt64.toNat_ofNat_of_lt (by omega)
      have hlast : (addCounts count (UInt64.ofNat missing)).toNat = count.toNat + missing := by
        rw [toNat_addCounts, hmissing]
        omega
      rw [addToLast, exactSum_cons, hlast]
      simp [exactSum]
    | cons next rest =>
      rw [addToLast_cons_cons, exactSum_cons, ih (List.cons_ne_nil _ _) (by omega)]
      omega

theorem length_addToLast (missing : Nat) (counts : List UInt64) :
    (addToLast missing counts).length = counts.length := by
  induction counts with
  | nil => rfl
  | cons count rest ih =>
    cases rest with
    | nil => rfl
    | cons next rest =>
      rw [addToLast_cons_cons, List.length_cons, ih]
      rfl

/-- The walk from the end takes away the excess, or everything if there is less. -/
theorem takeFromEnd_spec (excess : Nat) (counts : List UInt64) :
    (takeFromEnd excess counts).1 = excess - exactSum counts ∧
      exactSum (takeFromEnd excess counts).2 = exactSum counts - excess := by
  induction counts with
  | nil => simp [takeFromEnd, exactSum]
  | cons count rest ih =>
    obtain ⟨hleft, hsum⟩ := ih
    -- `count` loses at most itself, so what is left of it is still a word.
    have hcount : ∀ taken, (UInt64.ofNat (count.toNat - taken)).toNat = count.toNat - taken := by
      intro taken
      have hlt := count.toNat_lt
      exact UInt64.toNat_ofNat_of_lt (by simp only [UInt64.size]; omega)
    simp only [takeFromEnd, exactSum_cons, hcount, hleft, hsum]
    omega

/-- No excess is left when the counts cover it. -/
theorem exactSum_takeFromEnd {excess : Nat} {counts : List UInt64}
    (hcovered : excess ≤ exactSum counts) :
    (takeFromEnd excess counts).1 = 0 ∧
      exactSum (takeFromEnd excess counts).2 + excess = exactSum counts := by
  obtain ⟨hleft, hsum⟩ := takeFromEnd_spec excess counts
  omega

theorem length_takeFromEnd (excess : Nat) (counts : List UInt64) :
    (takeFromEnd excess counts).2.length = counts.length := by
  induction counts with
  | nil => rfl
  | cons count rest ih => rw [takeFromEnd, List.length_cons, ih, List.length_cons]

theorem reconcile_of_lt {counts : List UInt64} {total : UInt64}
    (hshort : exactSum counts < total.toNat) :
    reconcile counts total = addToLast (total.toNat - exactSum counts) counts :=
  if_pos hshort

theorem reconcile_of_le {counts : List UInt64} {total : UInt64}
    (hlong : total.toNat ≤ exactSum counts) :
    reconcile counts total = (takeFromEnd (exactSum counts - total.toNat) counts).2 :=
  if_neg (Nat.not_lt.mpr hlong)

/-- Corrected counts add up to the total, whether they fell short of it or went beyond. -/
theorem exactSum_reconcile {counts : List UInt64} (hne : counts ≠ []) (total : UInt64) :
    exactSum (reconcile counts total) = total.toNat := by
  rcases Nat.lt_or_ge (exactSum counts) total.toNat with hshort | hlong
  · have htotal : total.toNat < UInt64.size := total.toNat_lt
    rw [reconcile_of_lt hshort, exactSum_addToLast hne (by omega)]
    omega
  · obtain ⟨-, hsum⟩ := exactSum_takeFromEnd (Nat.sub_le (exactSum counts) total.toNat)
    rw [reconcile_of_le hlong]
    omega

theorem length_reconcile (counts : List UInt64) (total : UInt64) :
    (reconcile counts total).length = counts.length := by
  rcases Nat.lt_or_ge (exactSum counts) total.toNat with hshort | hlong
  · rw [reconcile_of_lt hshort, length_addToLast]
  · rw [reconcile_of_le hlong, length_takeFromEnd]

/-! ### Keys -/

/-- Cutting off the number of steps first makes no difference to a distance that is cut
    off at the same end: one step of a positive interval is already at least one. -/
theorem min_mul_min {interval bound : Int} {steps : Nat} (hinterval : 0 ≤ interval)
    (hbound : 0 ≤ bound) :
    min (interval * min (steps : Int) bound) bound = min (steps * interval) bound := by
  rw [Int.mul_comm (steps : Int)]
  rcases Int.le_total (steps : Int) bound with hsteps | hsteps
  · rw [Int.min_eq_left hsteps]
  · rw [Int.min_eq_right hsteps]
    rcases Int.lt_or_eq_of_le hinterval with hpos | rfl
    -- Both distances are beyond the bound.
    · have hself : bound ≤ interval * bound := by
        have hmul := Int.mul_le_mul_of_nonneg_right (Int.add_one_le_of_lt hpos) hbound
        omega
      have hmore : interval * bound ≤ interval * steps :=
        Int.mul_le_mul_of_nonneg_left hsteps hinterval
      omega
    · simp

/-- The key of a bucket, with the distance and the key itself cut off at the ends of the
    signed words. -/
theorem toInt_stepKey {now interval : Int64} (steps : Nat) (hinterval : 0 ≤ interval) :
    (stepKey now interval steps).toInt = max Int64.minValue.toInt
      (now.toInt - min (steps * interval.toInt) Int64.maxValue.toInt) := by
  have hnonneg : 0 ≤ interval.toInt := Int64.le_iff_toInt_le.mp hinterval
  have hmin := Int64.toInt_minValue
  have hmax := Int64.toInt_maxValue
  have hnow := now.toInt_le
  have hdistance : 0 ≤ (steps : Int) * interval.toInt :=
    Int.mul_nonneg (Int.natCast_nonneg steps) hnonneg
  have hsteps : min (interval.toInt * min (steps : Int) Int64.maxValue.toInt)
      Int64.maxValue.toInt = min (steps * interval.toInt) Int64.maxValue.toInt :=
    min_mul_min hnonneg (by decide)
  simp only [stepKey, Number.toInt_ofIntClamp, hsteps]
  omega

theorem stepKey_zero {now interval : Int64} (hinterval : 0 ≤ interval) :
    stepKey now interval 0 = now := by
  have hlow := now.minValue_le_toInt
  have hmax := Int64.toInt_maxValue
  refine Int64.toInt.inj ?_
  rw [toInt_stepKey 0 hinterval, Int.natCast_zero, Int.zero_mul]
  omega

theorem mul_interval_le {interval : Int64} {steps most : Nat} (hinterval : 0 ≤ interval)
    (hsteps : steps ≤ most) : (steps : Int) * interval.toInt ≤ most * interval.toInt :=
  Int.mul_le_mul_of_nonneg_right (Int.ofNat_le.mpr hsteps) (Int64.le_iff_toInt_le.mp hinterval)

/-- More steps back never lead to a later key. -/
theorem stepKey_antitone {now interval : Int64} {steps more : Nat} (hinterval : 0 ≤ interval)
    (hsteps : steps ≤ more) : stepKey now interval more ≤ stepKey now interval steps := by
  have hdistance := mul_interval_le hinterval hsteps
  rw [Int64.le_iff_toInt_le, toInt_stepKey more hinterval, toInt_stepKey steps hinterval]
  omega

/-- One step more is one interval more, as long as the farthest key is not cut off. -/
theorem stepKey_succ {now interval : Int64} {steps most : Nat} (hinterval : 0 ≤ interval)
    (hdistance : (most : Int) * interval.toInt ≤ Int64.maxValue.toInt)
    (hkey : Int64.minValue.toInt ≤ now.toInt - most * interval.toInt) (hsteps : steps < most) :
    (stepKey now interval (steps + 1)).toInt =
      (stepKey now interval steps).toInt - interval.toInt := by
  have hnonneg : 0 ≤ interval.toInt := Int64.le_iff_toInt_le.mp hinterval
  have hmost : ((steps + 1 : Nat) : Int) * interval.toInt ≤ most * interval.toInt :=
    mul_interval_le hinterval hsteps
  have hsucc : ((steps + 1 : Nat) : Int) * interval.toInt =
      steps * interval.toInt + interval.toInt := by
    rw [Int.natCast_succ, Int.add_mul, Int.one_mul]
  rw [toInt_stepKey _ hinterval, toInt_stepKey _ hinterval]
  omega

/-! ### The series -/

/-- What a series of `n` buckets synthesized for a total is like. -/
structure Synthesized (total : UInt64) (n : Nat) (interval now : Int64) (s : Series) : Prop where
  length : s.buckets.length = n
  /-- The counts add up to the total, in exact arithmetic. -/
  sum : exactSum (s.buckets.map (·.docCount)) = total.toNat
  total : s.total = total
  /-- Each bucket is as many intervals before the newest as there are buckets after it. -/
  key : ∀ i b, s.buckets[i]? = some b → b.key.toInt = max Int64.minValue.toInt
    (now.toInt - min (((n - 1 - i : Nat) : Int) * interval.toInt) Int64.maxValue.toInt)
  newest : s.buckets.getLast?.map (·.key) = some now
  ascending : s.buckets.Pairwise fun a b => a.key ≤ b.key
  /-- Where the oldest key is not cut off, consecutive keys are an interval apart. -/
  spaced : ((n - 1 : Nat) : Int) * interval.toInt ≤ Int64.maxValue.toInt →
    Int64.minValue.toInt ≤ now.toInt - ((n - 1 : Nat) : Int) * interval.toInt →
    ∀ i a b, s.buckets[i]? = some a → s.buckets[i + 1]? = some b →
      b.key.toInt = a.key.toInt + interval.toInt

theorem getElem?_synthesize {total : UInt64} {n : Nat} {interval now : Int64} {i : Nat}
    {b : Bucket} (hb : (synthesize total n interval now).buckets[i]? = some b) :
    i < n ∧ b.key = stepKey now interval (n - 1 - i) := by
  simp only [synthesize, List.getElem?_map, List.getElem?_zipIdx, Option.map_map,
    Option.map_eq_some_iff] at hb
  obtain ⟨docCount, hcount, rfl⟩ := hb
  have hlength := (List.getElem?_eq_some_iff.mp hcount).1
  rw [length_reconcile, shares, List.length_map, List.length_range] at hlength
  exact ⟨hlength, by simp⟩

theorem length_synthesize (total : UInt64) (n : Nat) (interval now : Int64) :
    (synthesize total n interval now).buckets.length = n := by
  simp [synthesize, length_reconcile, shares]

theorem map_docCount_synthesize (total : UInt64) (n : Nat) (interval now : Int64) :
    (synthesize total n interval now).buckets.map (·.docCount) =
      reconcile (shares total n) total := by
  simp only [synthesize, List.map_map, Function.comp_def]
  exact List.zipIdx_map_fst _ _

theorem exactSum_synthesize (total : UInt64) {n : Nat} (interval now : Int64) (hn : 0 < n) :
    exactSum ((synthesize total n interval now).buckets.map (·.docCount)) = total.toNat := by
  have hne : shares total n ≠ [] := by
    rw [shares, Ne, List.map_eq_nil_iff, List.range_eq_nil]
    omega
  rw [map_docCount_synthesize, exactSum_reconcile hne]

/-- A synthesized series has all its buckets, loses no count and steps back from the
    newest key, for every total, every positive number of buckets and every interval
    that is not negative. -/
theorem synthesized_synthesize (total : UInt64) (n : Nat) (interval now : Int64) (hn : 0 < n)
    (hinterval : 0 ≤ interval) :
    Synthesized total n interval now (synthesize total n interval now) where
  length := length_synthesize total n interval now
  sum := exactSum_synthesize total interval now hn
  total := rfl
  key := by
    intro i b hb
    rw [(getElem?_synthesize hb).2, toInt_stepKey _ hinterval]
  newest := by
    rw [List.getLast?_eq_getElem?, length_synthesize]
    have hlast : n - 1 < (synthesize total n interval now).buckets.length := by
      rw [length_synthesize]
      omega
    have hget := List.getElem?_eq_getElem hlast
    rw [hget, Option.map_some, (getElem?_synthesize hget).2, Nat.sub_self, stepKey_zero hinterval]
  ascending := by
    rw [List.pairwise_iff_getElem]
    intro i j hi hj hij
    rw [(getElem?_synthesize (List.getElem?_eq_getElem hi)).2,
      (getElem?_synthesize (List.getElem?_eq_getElem hj)).2]
    exact stepKey_antitone hinterval (by omega)
  spaced := by
    intro hdistance hkey i a b ha hb
    obtain ⟨-, ha⟩ := getElem?_synthesize ha
    obtain ⟨hi, hb⟩ := getElem?_synthesize hb
    have hsteps : n - 1 - i = n - 1 - (i + 1) + 1 := by
      omega
    rw [ha, hb, hsteps, stepKey_succ hinterval hdistance hkey (by omega)]
    omega

theorem synthesized_synthesize_hourly : 0 < 12 ∧ (0 : Int64) ≤ 3600000 ∧
    Synthesized 47 12 3600000 1700000000000 (synthesize 47 12 3600000 1700000000000) :=
  ⟨by decide, by decide, synthesized_synthesize 47 12 3600000 1700000000000 (by decide) (by decide)⟩

end TriggerCompose.Preview
