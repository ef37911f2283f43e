import TriggerCompose.Number.Decimal
import TriggerCompose.Proofs.Number.Shortest
import Mathlib.Algebra.Order.Field.Power
import Mathlib.Algebra.Order.Field.Rat
import Mathlib.Tactic.FieldSimp
import Mathlib.Tactic.Linarith

/-!
# Rounding to the nearest double

The double of a decimal is the nearest one, and of two that are equally near the one whose
place among the magnitudes is even. A decimal is out of range just if the nearest magnitude
would be, were there magnitudes without end.

## Main definitions

* `Magnitude.unitsAt`: the magnitudes without end.
* `Magnitude.IsNearest`: the place nearest to a value.
* `Double.IsNearest`: the double nearest to a value.

## Main statements

* `Magnitude.unitsAt_strictMono`: greater places have greater values.
* `Magnitude.isNearest_nearestRank`: quotients are rounded to the nearest place.
* `Magnitude.IsNearest.unique`: there is one nearest place.
* `Double.isNearest_iff`: the double of a decimal is the nearest one.
* `Double.IsNearest.exists_finite`: which values have a finite double.
-/

namespace TriggerCompose

namespace Magnitude

/-! ### Magnitudes without end -/

/-- The value at a place among the magnitudes, where they go on without end. -/
def unitsAt (rank : Nat) : Nat :=
  (rank - (rank / 2 ^ 52 - 1) * 2 ^ 52) * 2 ^ (rank / 2 ^ 52 - 1)

/-- The magnitudes of finite doubles are the first of them. -/
theorem unitsAt_rank (m : Magnitude) : unitsAt m.rank = m.units := by
  rw [unitsAt, units_eq, significand_eq, shift_eq]

/-- A significand of `2 ^ 53` stands for half of it with the next shift. -/
theorem unitsAt_add {shift significand : Nat} (hle : significand ≤ 2 ^ 53)
    (hlow : shift = 0 ∨ 2 ^ 52 ≤ significand) :
    unitsAt (shift * 2 ^ 52 + significand) = significand * 2 ^ shift := by
  by_cases hcarry : significand = 2 ^ 53
  · have hshift : (shift * 2 ^ 52 + significand) / 2 ^ 52 - 1 = shift + 1 := by omega
    have hhalf : shift * 2 ^ 52 + significand - (shift + 1) * 2 ^ 52 = 2 ^ 52 := by omega
    rw [unitsAt, hshift, hhalf, hcarry, ← Nat.pow_add, ← Nat.pow_add]
    congr 1
    omega
  · have hshift : (shift * 2 ^ 52 + significand) / 2 ^ 52 - 1 = shift := by omega
    rw [unitsAt, hshift, Nat.add_sub_cancel_left]

theorem exists_significand (rank : Nat) : ∃ shift significand,
    rank = shift * 2 ^ 52 + significand ∧ significand < 2 ^ 53 ∧
      (shift = 0 ∨ 2 ^ 52 ≤ significand) := by
  refine ⟨rank / 2 ^ 52 - 1, rank - (rank / 2 ^ 52 - 1) * 2 ^ 52, ?_, ?_, ?_⟩ <;> omega

theorem unitsAt_strictMono : StrictMono unitsAt := by
  refine strictMono_nat_of_lt_succ fun rank => ?_
  obtain ⟨shift, significand, rfl, hlt, hlow⟩ := exists_significand rank
  rw [unitsAt_add (Nat.le_of_lt hlt) hlow, Nat.add_assoc, unitsAt_add hlt (by omega)]
  exact Nat.mul_lt_mul_of_pos_right (Nat.lt_succ_self _) (Nat.two_pow_pos _)

/-! ### The nearest place -/

/-- A place is nearest to a value in units: every other one is farther from it, or just as far
and this one is even. -/
def IsNearest (v : ℚ) (rank : Nat) : Prop :=
  ∀ other, other ≠ rank → |(unitsAt rank : ℚ) - v| < |(unitsAt other : ℚ) - v| ∨
    (|(unitsAt rank : ℚ) - v| = |(unitsAt other : ℚ) - v| ∧ rank % 2 = 0)

namespace IsNearest

variable {v : ℚ} {rank other : Nat}

theorem closest (h : IsNearest v rank) (other : Nat) :
    |(unitsAt rank : ℚ) - v| ≤ |(unitsAt other : ℚ) - v| := by
  by_cases hne : other = rank
  · rw [hne]
  · rcases h other hne with hlt | ⟨heq, -⟩
    · exact hlt.le
    · exact heq.le

/-- Two even places have another one between them, which would be nearer. -/
theorem not_lt (h : IsNearest v rank) (hother : IsNearest v other) : ¬ rank < other := by
  intro hlt
  have heven : rank % 2 = 0 ∧ other % 2 = 0 := by
    rcases h other (Nat.ne_of_gt hlt) with hnearer | ⟨-, hrank⟩
    · exact absurd (hother.closest rank) (not_le.mpr hnearer)
    · rcases hother rank (Nat.ne_of_lt hlt) with hnearer | ⟨-, hother⟩
      · exact absurd (h.closest other) (not_le.mpr hnearer)
      · exact ⟨hrank, hother⟩
  have hbelow : (unitsAt rank : ℚ) < unitsAt (rank + 1) := by
    exact_mod_cast unitsAt_strictMono (Nat.lt_succ_self rank)
  have habove : (unitsAt (rank + 1) : ℚ) < unitsAt other := by
    exact_mod_cast unitsAt_strictMono (show rank + 1 < other by omega)
  -- The value is in the middle of the two places.
  have hsame := le_antisymm (h.closest other) (hother.closest rank)
  have hbetween := h.closest (rank + 1)
  grind

theorem unique (h : IsNearest v rank) (hother : IsNearest v other) : rank = other :=
  Nat.le_antisymm (Nat.le_of_not_lt (hother.not_lt h)) (Nat.le_of_not_lt (h.not_lt hother))

/-- The nearest place is not below a value that is reached. -/
theorem le_of_unitsAt_le (h : IsNearest v rank) (hreached : (unitsAt other : ℚ) ≤ v) :
    other ≤ rank := by
  refine Nat.le_of_not_lt fun hlt => ?_
  have hbelow : (unitsAt rank : ℚ) < unitsAt other := by
    exact_mod_cast unitsAt_strictMono hlt
  have hclosest := h.closest other
  grind

/-- The nearest place is not above a value that is not reached. -/
theorem le_of_le_unitsAt (h : IsNearest v rank) (hreached : v ≤ unitsAt other) : rank ≤ other := by
  refine Nat.le_of_not_lt fun hlt => ?_
  have habove : (unitsAt other : ℚ) < unitsAt rank := by
    exact_mod_cast unitsAt_strictMono hlt
  have hclosest := h.closest other
  grind

end IsNearest

theorem isNearest_zero {v : ℚ} (hnonneg : 0 ≤ v) (hsmall : v < 1 / 2) : IsNearest v 0 := by
  intro other hother
  have hzero : unitsAt 0 = 0 := rfl
  have hone : (1 : ℚ) ≤ unitsAt other := by
    have hlt : unitsAt 0 < unitsAt other := unitsAt_strictMono (Nat.pos_of_ne_zero hother)
    exact_mod_cast hlt
  left
  rw [hzero, Nat.cast_zero]
  grind

/-! ### Rounding quotients -/

theorem roundEven_bounds (num : Nat) {den : Nat} (hden : 0 < den) :
    2 * (roundEven num den * den) ≤ 2 * num + den ∧ 2 * num ≤ 2 * (roundEven num den * den) + den ∧
      (roundEven num den % 2 = 1 → 2 * (roundEven num den * den) < 2 * num + den ∧
        2 * num < 2 * (roundEven num den * den) + den) := by
  have hdiv : num / den * den + num % den = num := Nat.div_add_mod' num den
  have hmod : num % den < den := Nat.mod_lt _ hden
  have hsucc : (num / den + 1) * den = num / den * den + den := Nat.succ_mul _ _
  simp only [roundEven]
  split_ifs <;> grind

/-- A place is nearest to a value within half a gap of it. The gap below it counts only for a
value below it. -/
theorem isNearest_of_gaps {v gap : ℚ} {rank : Nat}
    (habove : (unitsAt rank : ℚ) + gap ≤ unitsAt (rank + 1))
    (hbelow : unitsAt rank ≤ v ∨ ∀ other < rank, (unitsAt other : ℚ) + gap ≤ unitsAt rank)
    (hlow : 2 * (unitsAt rank : ℚ) ≤ 2 * v + gap) (hhigh : 2 * v ≤ 2 * (unitsAt rank : ℚ) + gap)
    (hodd : rank % 2 = 1 → 2 * (unitsAt rank : ℚ) < 2 * v + gap ∧
      2 * v < 2 * (unitsAt rank : ℚ) + gap) : IsNearest v rank := by
  intro other hne
  rcases Nat.lt_or_gt_of_ne hne with hlt | hgt
  · have hunits : (unitsAt other : ℚ) < unitsAt rank := by
      exact_mod_cast unitsAt_strictMono hlt
    rcases hbelow with hreached | hgap
    · left
      grind
    · have := hgap other hlt
      grind
  · have hunits : (unitsAt (rank + 1) : ℚ) ≤ unitsAt other := by
      exact_mod_cast unitsAt_strictMono.monotone hgt
    grind

section

variable (num : Nat) {den : Nat} (hden : 0 < den)

include hden

theorem lt_of_quotient_log2 : num < 2 ^ 53 * (den * 2 ^ ((num / den).log2 - 52)) := by
  have hlog : num / den < 2 ^ ((num / den).log2 + 1) := Nat.lt_log2_self
  have hle : 2 ^ ((num / den).log2 + 1) ≤ 2 ^ (53 + ((num / den).log2 - 52)) :=
    Nat.pow_le_pow_right (by decide) (by omega)
  have hnum := (Nat.div_lt_iff_lt_mul hden).mp (Nat.lt_of_lt_of_le hlog hle)
  rw [Nat.pow_add] at hnum
  grind

theorem le_of_quotient_log2 (hshift : (num / den).log2 - 52 ≠ 0) :
    2 ^ 52 * (den * 2 ^ ((num / den).log2 - 52)) ≤ num := by
  have hne : num / den ≠ 0 := by
    intro hzero
    rw [hzero] at hshift
    exact hshift rfl
  have hlog := Nat.log2_self_le hne
  have hsum : (num / den).log2 = 52 + ((num / den).log2 - 52) := by omega
  rw [hsum, Nat.pow_add, Nat.le_div_iff_mul_le hden] at hlog
  grind

/-- The rounded significand has at most 53 bits, or is the power of two behind them. -/
theorem roundEven_mem : roundEven num (den * 2 ^ ((num / den).log2 - 52)) ≤ 2 ^ 53 ∧
    ((num / den).log2 - 52 = 0 ∨ 2 ^ 52 ≤ roundEven num (den * 2 ^ ((num / den).log2 - 52))) := by
  have hlt := lt_of_quotient_log2 num hden
  have hle := le_of_quotient_log2 num hden
  generalize (num / den).log2 - 52 = shift at *
  have hscaled : 0 < den * 2 ^ shift := Nat.mul_pos hden (Nat.two_pow_pos shift)
  obtain ⟨hlow, hhigh, -⟩ := roundEven_bounds num hscaled
  generalize den * 2 ^ shift = scaled at *
  refine ⟨?_, ?_⟩
  · have hmul : 2 * roundEven num scaled * scaled < (2 * 2 ^ 53 + 1) * scaled := by grind
    have := Nat.lt_of_mul_lt_mul_right hmul
    omega
  · by_cases hshift : shift = 0
    · exact .inl hshift
    · have hmul : 2 * 2 ^ 52 * scaled ≤ (2 * roundEven num scaled + 1) * scaled := by
        have := hle hshift
        grind
      have := Nat.le_of_mul_le_mul_right hmul hscaled
      omega

end

theorem unitsAt_add_gap_le {shift significand : Nat} (hle : significand ≤ 2 ^ 53)
    (hlow : shift = 0 ∨ 2 ^ 52 ≤ significand) :
    significand * 2 ^ shift + 2 ^ shift ≤ unitsAt (shift * 2 ^ 52 + significand + 1) := by
  rw [← Nat.succ_mul]
  by_cases hcarry : significand = 2 ^ 53
  · have hnext : shift * 2 ^ 52 + significand + 1 = (shift + 1) * 2 ^ 52 + (2 ^ 52 + 1) := by omega
    rw [hnext, unitsAt_add (by decide) (.inr (by decide)), hcarry, Nat.pow_succ]
    omega
  · rw [Nat.add_assoc, unitsAt_add (by omega) (by omega)]

/-- Below a significand that is not the least one of its shift the gap is as wide as above. -/
theorem unitsAt_add_gap_le_of_lt {shift significand other : Nat} (hle : significand ≤ 2 ^ 53)
    (hlow : shift = 0 ∨ 2 ^ 52 < significand) (hother : other < shift * 2 ^ 52 + significand) :
    unitsAt other + 2 ^ shift ≤ significand * 2 ^ shift := by
  obtain ⟨before, rfl⟩ : ∃ before, significand = before + 1 :=
    Nat.exists_eq_succ_of_ne_zero (by rintro rfl; omega)
  have hbefore : unitsAt (shift * 2 ^ 52 + before) = before * 2 ^ shift :=
    unitsAt_add (by omega) (by omega)
  have hmono : unitsAt other ≤ unitsAt (shift * 2 ^ 52 + before) :=
    unitsAt_strictMono.monotone (by omega)
  rw [Nat.succ_mul, ← hbefore]
  omega

theorem isNearest_nearestRank (num : Nat) {den : Nat} (hden : 0 < den) :
    IsNearest (num / den) (nearestRank num den) := by
  obtain ⟨hle, hleast⟩ := roundEven_mem num hden
  have hreached := le_of_quotient_log2 num hden
  rw [nearestRank, Nat.shiftLeft_eq, Nat.shiftLeft_eq]
  generalize (num / den).log2 - 52 = shift at *
  obtain ⟨hlow, hhigh, hodd⟩ := roundEven_bounds num (Nat.mul_pos hden (Nat.two_pow_pos shift))
  generalize roundEven num (den * 2 ^ shift) = significand at *
  have hpos : (0 : ℚ) < den := by exact_mod_cast hden
  have hvalue : (num : ℚ) / den * den = num := div_mul_cancel₀ _ hpos.ne'
  have hunits : (unitsAt (shift * 2 ^ 52 + significand) : ℚ) = significand * 2 ^ shift := by
    exact_mod_cast unitsAt_add hle hleast
  refine @isNearest_of_gaps _ (2 ^ shift) _ ?_ ?_ ?_ ?_ ?_
  · rw [hunits]
    exact_mod_cast unitsAt_add_gap_le hle hleast
  · rw [hunits]
    by_cases hleft : shift ≠ 0 ∧ significand = 2 ^ 52
    · left
      have hnum : (significand * (den * 2 ^ shift) : ℚ) ≤ num := by
        exact_mod_cast hleft.2 ▸ hreached hleft.1
      exact le_of_mul_le_mul_right (by linarith) hpos
    · right
      intro other hother
      exact_mod_cast unitsAt_add_gap_le_of_lt hle (by omega) hother
  · rw [hunits]
    have hlow : (2 * (significand * (den * 2 ^ shift)) : ℚ) ≤ 2 * num + den * 2 ^ shift := by
      exact_mod_cast hlow
    exact le_of_mul_le_mul_right (by linarith) hpos
  · rw [hunits]
    have hhigh : (2 * num : ℚ) ≤ 2 * (significand * (den * 2 ^ shift)) + den * 2 ^ shift := by
      exact_mod_cast hhigh
    exact le_of_mul_le_mul_right (by linarith) hpos
  · intro hparity
    rw [hunits]
    obtain ⟨hbelow, habove⟩ := hodd (by omega)
    have hbelow : (2 * (significand * (den * 2 ^ shift)) : ℚ) < 2 * num + den * 2 ^ shift := by
      exact_mod_cast hbelow
    have habove : (2 * num : ℚ) < 2 * (significand * (den * 2 ^ shift)) + den * 2 ^ shift := by
      exact_mod_cast habove
    exact ⟨lt_of_mul_lt_mul_right (by linarith) hpos.le,
      lt_of_mul_lt_mul_right (by linarith) hpos.le⟩

end Magnitude

namespace Decimal

open Magnitude (IsNearest unitsAt)

/-- The value of a decimal in units. -/
def units (d : Decimal) : ℚ :=
  d.coefficient * 10 ^ d.exponent * 2 ^ Magnitude.unitPlaces

theorem cast_ten_pow (k : Nat) : ((Nat.pow 10 k : Nat) : ℚ) = 10 ^ k :=
  (Nat.cast_pow 10 k).trans (by rw [Nat.cast_ofNat])

theorem cast_unitsPerOne : (Magnitude.unitsPerOne : ℚ) = 2 ^ Magnitude.unitPlaces := by
  rw [Magnitude.unitsPerOne, Nat.shiftLeft_eq, Nat.one_mul, Nat.cast_pow, Nat.cast_ofNat]

theorem units_of_nonneg {d : Decimal} (h : 0 ≤ d.exponent) :
    d.units = (d.coefficient * Nat.pow 10 d.exponent.toNat * Magnitude.unitsPerOne : Nat) /
      (1 : Nat) := by
  have hpower : (10 : ℚ) ^ d.exponent = 10 ^ d.exponent.toNat := by
    rw [← zpow_natCast, Int.toNat_of_nonneg h]
  rw [units, hpower, Nat.cast_mul, Nat.cast_mul, cast_ten_pow, cast_unitsPerOne, Nat.cast_one,
    div_one]

theorem units_of_neg {d : Decimal} (h : d.exponent < 0) :
    d.units = (d.coefficient * Magnitude.unitsPerOne : Nat) /
      (Nat.pow 10 (-d.exponent).toNat : Nat) := by
  have hpower : (10 : ℚ) ^ d.exponent = (10 ^ (-d.exponent).toNat)⁻¹ := by
    rw [← zpow_natCast, ← zpow_neg, Int.toNat_of_nonneg (by omega), neg_neg]
  rw [units, hpower, Nat.cast_mul, cast_ten_pow, cast_unitsPerOne, mul_right_comm,
    ← div_eq_mul_inv]

theorem two_pow_le_ten_pow : (2 : ℚ) ^ 1089 ≤ 10 ^ 330 := by
  calc (2 : ℚ) ^ (33 * 33) = (2 ^ 33) ^ 33 := pow_mul 2 33 33
    _ ≤ (10 ^ 10) ^ 33 := pow_le_pow_left₀ (by positivity) (by norm_num) 33
    _ = 10 ^ (10 * 33) := (pow_mul 10 10 33).symm

theorem unitsAt_count : unitsAt Magnitude.count = 2 ^ 1024 * 2 ^ Magnitude.unitPlaces := by
  have hcount : Magnitude.count = 2046 * 2 ^ 52 + 2 ^ 52 := by decide
  have hpower : ∀ shift whole places, 52 + shift = whole + places →
      unitsAt (shift * 2 ^ 52 + 2 ^ 52) = 2 ^ whole * 2 ^ places := by
    intro shift whole places hsum
    rw [Magnitude.unitsAt_add (by decide) (.inr (by decide)), ← Nat.pow_add, hsum, Nat.pow_add]
  rw [hcount]
  exact hpower 2046 1024 Magnitude.unitPlaces (by decide)

/-- A decimal with so large an exponent is behind the last magnitude. -/
theorem unitsAt_count_le {d : Decimal} (hne : d.coefficient ≠ 0) (h : 330 ≤ d.exponent) :
    (unitsAt Magnitude.count : ℚ) ≤ d.units := by
  have hcoefficient : (1 : ℚ) ≤ d.coefficient := by
    exact_mod_cast Nat.one_le_iff_ne_zero.mpr hne
  have hpower : (2 : ℚ) ^ 1024 ≤ 10 ^ d.exponent := by
    calc (2 : ℚ) ^ 1024 ≤ 2 ^ 1089 := pow_le_pow_right₀ (by norm_num) (by norm_num)
      _ ≤ 10 ^ 330 := two_pow_le_ten_pow
      _ = 10 ^ (330 : Int) := (zpow_natCast 10 330).symm
      _ ≤ 10 ^ d.exponent := zpow_le_zpow_right₀ (by norm_num) h
  rw [unitsAt_count, units, Nat.cast_mul, Nat.cast_pow, Nat.cast_pow, Nat.cast_ofNat]
  refine mul_le_mul_of_nonneg_right ?_ (by positivity)
  calc (2 : ℚ) ^ 1024 ≤ 10 ^ d.exponent := hpower
    _ ≤ d.coefficient * 10 ^ d.exponent := le_mul_of_one_le_left (by positivity) hcoefficient

/-- A decimal with so small an exponent is nearer to zero than to the first magnitude. -/
theorem units_lt_half {d : Decimal} (h : d.exponent + (d.coefficient.log2 + 1) < -330) :
    d.units < 1 / 2 := by
  have hcoefficient : (d.coefficient : ℚ) < 10 ^ (d.coefficient.log2 + 1) := by
    calc (d.coefficient : ℚ) < 2 ^ (d.coefficient.log2 + 1) := by exact_mod_cast Nat.lt_log2_self
      _ ≤ 10 ^ (d.coefficient.log2 + 1) := pow_le_pow_left₀ (by norm_num) (by norm_num) _
  have hpower : (10 : ℚ) ^ d.exponent * 10 ^ (d.coefficient.log2 + 1) ≤ (2 ^ 1089)⁻¹ := by
    calc (10 : ℚ) ^ d.exponent * 10 ^ (d.coefficient.log2 + 1)
        = 10 ^ (d.exponent + ((d.coefficient.log2 + 1 : Nat) : Int)) := by
          rw [zpow_add₀ (by norm_num), zpow_natCast]
      _ ≤ 10 ^ (-330 : Int) := zpow_le_zpow_right₀ (by norm_num) (by push_cast; omega)
      _ = (10 ^ 330)⁻¹ := by rw [zpow_neg]; rfl
      _ ≤ (2 ^ 1089)⁻¹ := inv_anti₀ (by positivity) two_pow_le_ten_pow
  have hplaces : (2 : ℚ) ^ 1089 = 2 ^ 15 * 2 ^ Magnitude.unitPlaces := by
    rw [← pow_add]
    exact congrArg (2 ^ ·) (by decide)
  calc d.units ≤ 10 ^ (d.coefficient.log2 + 1) * 10 ^ d.exponent * 2 ^ Magnitude.unitPlaces := by
        rw [units]
        gcongr
    _ ≤ (2 ^ 1089)⁻¹ * 2 ^ Magnitude.unitPlaces := by
        rw [mul_comm (10 ^ (d.coefficient.log2 + 1))]
        gcongr
    _ = (2 ^ 15)⁻¹ := by
        rw [hplaces]
        field_simp
    _ < 1 / 2 := by norm_num

theorem units_nonneg (d : Decimal) : 0 ≤ d.units := by
  rw [units]
  positivity

theorem exists_isNearest_units (d : Decimal) : ∃ rank, IsNearest d.units rank ∧
    d.magnitude? = if h : rank < Magnitude.count then some ⟨rank, h⟩ else none := by
  rw [magnitude?]
  split
  next hzero =>
    refine ⟨0, Magnitude.isNearest_zero d.units_nonneg ?_, rfl⟩
    rw [units, hzero]
    norm_num
  next hne =>
  split
  next hhigh =>
    have hquotient := Magnitude.isNearest_nearestRank
      (d.coefficient * Nat.pow 10 d.exponent.toNat * Magnitude.unitsPerOne) Nat.one_pos
    rw [← units_of_nonneg (by omega)] at hquotient
    have hbeyond := hquotient.le_of_unitsAt_le (unitsAt_count_le hne hhigh)
    refine ⟨_, hquotient, ?_⟩
    rw [dif_neg (Nat.not_lt.mpr hbeyond)]
  next =>
  split
  next hlow => exact ⟨0, Magnitude.isNearest_zero d.units_nonneg (units_lt_half hlow), rfl⟩
  next =>
  split
  next hexponent =>
    refine ⟨_, ?_, rfl⟩
    rw [units_of_nonneg hexponent]
    exact Magnitude.isNearest_nearestRank _ (by decide)
  next hexponent =>
    refine ⟨_, ?_, rfl⟩
    rw [units_of_neg (Int.not_le.mp hexponent)]
    exact Magnitude.isNearest_nearestRank _ (Nat.pow_pos (by decide))

end Decimal

namespace Double

/-- A double is nearest to a signed value in units. It is infinite just if the nearest place is
behind the last magnitude. -/
def IsNearest (negative : Bool) (v : ℚ) : Double → Prop
  | nan => False
  | infinite sign => sign = negative ∧ ∃ rank, Magnitude.count ≤ rank ∧ Magnitude.IsNearest v rank
  | finite x => x.negative = negative ∧ Magnitude.IsNearest v x.magnitude.rank

theorem isNearest_iff {negative : Bool} {d : Decimal} {x : Double} :
    IsNearest negative d.units x ↔ x = ofDecimal negative d := by
  obtain ⟨rank, hrank, hmagnitude⟩ := d.exists_isNearest_units
  rw [ofDecimal, hmagnitude]
  by_cases hfinite : rank < Magnitude.count
  · rw [dif_pos hfinite]
    constructor
    · intro hx
      cases x with
      | nan => cases hx
      | infinite sign =>
        obtain ⟨-, beyond, hbeyond, hnearest⟩ := hx
        have := hrank.unique hnearest
        omega
      | finite x =>
        obtain ⟨rfl, hnearest⟩ := hx
        obtain ⟨negative, place, hplace⟩ := x
        obtain rfl : rank = place := hrank.unique hnearest
        rfl
    · rintro rfl
      exact ⟨rfl, hrank⟩
  · rw [dif_neg hfinite]
    constructor
    · intro hx
      cases x with
      | nan => cases hx
      | infinite sign =>
        obtain ⟨rfl, -⟩ := hx
        rfl
      | finite x =>
        have hplace := hrank.unique hx.2
        exact absurd (hplace ▸ x.magnitude.rank_lt) hfinite
    · rintro rfl
      exact ⟨rfl, rank, Nat.le_of_not_lt hfinite, hrank⟩

/-- No magnitude is nearer than that of the nearest double. -/
theorem IsNearest.closest {negative : Bool} {v : ℚ} {x : Finite}
    (h : IsNearest negative v (finite x)) (m : Magnitude) :
    |(x.magnitude.units : ℚ) - v| ≤ |(m.units : ℚ) - v| := by
  rw [← Magnitude.unitsAt_rank, ← Magnitude.unitsAt_rank]
  exact h.2.closest m.rank

/-- A value that is not beyond some magnitude has a finite double. -/
theorem IsNearest.exists_finite {negative : Bool} {v : ℚ} {x : Double} (h : IsNearest negative v x)
    (m : Magnitude) (hv : v ≤ m.units) : ∃ y : Finite, x = finite y ∧ y.negative = negative := by
  cases x with
  | nan => cases h
  | infinite sign =>
    obtain ⟨-, rank, hrank, hnearest⟩ := h
    rw [← Magnitude.unitsAt_rank] at hv
    have hle := hnearest.le_of_le_unitsAt hv
    have hlt := m.rank_lt
    omega
  | finite y => exact ⟨y, rfl, h.1⟩

theorem isNearest_ofDecimal (negative : Bool) (d : Decimal) :
    IsNearest negative d.units (ofDecimal negative d) :=
  isNearest_iff.mpr rfl

end Double

end TriggerCompose
