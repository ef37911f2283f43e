import TriggerCompose.Number.Shortest
import Mathlib.Algebra.Group.Nat.Defs

/-!
# Shortest decimals read back

A magnitude is the one nearest to its own value, on whatever grid that value is
written exactly. So the shortest decimal of a magnitude reads back as it: each
candidate is tested, and the last resort, all the digits, cannot fail.

## Main statements

* `Magnitude.ofUnits?_units`: a magnitude is nearest to its own value.
* `Magnitude.magnitude?_shortest`: the shortest decimal reads back.
* `Decimal.magnitude?_whole`: a whole decimal keeps its magnitude when the zeros of
  its power of ten are written out.
-/

namespace TriggerCompose

namespace Magnitude

/-- A quotient that is whole is its own nearest number. -/
theorem roundEven_mul_right (k : Nat) {den : Nat} (hden : 0 < den) :
    roundEven (k * den) den = k := by
  simp [roundEven, Nat.mul_div_cancel k hden, hden]

theorem shift_eq (m : Magnitude) : m.shift = m.rank / 2 ^ 52 - 1 := by
  rw [shift, Nat.shiftRight_eq_div_pow]

theorem significand_eq (m : Magnitude) : m.significand = m.rank - m.shift * 2 ^ 52 :=
  congrArg (m.rank - ·) (Nat.shiftLeft_eq m.shift 52)

theorem units_eq (m : Magnitude) : m.units = m.significand * 2 ^ m.shift := by
  rw [units, Nat.shiftLeft_eq]

/-- The lowest magnitudes are counted by their ranks. -/
theorem units_eq_rank {m : Magnitude} (hm : m.rank < 2 ^ 53) : m.units = m.rank := by
  have hshift : m.shift = 0 := by
    rw [shift_eq]; omega
  simp [units_eq, significand_eq, hshift]

/-- Above the lowest magnitudes a significand has exactly 53 bits. -/
theorem significand_mem {m : Magnitude} (hm : 2 ^ 53 ≤ m.rank) :
    2 ^ 52 ≤ m.significand ∧ m.significand < 2 ^ 53 := by
  rw [significand_eq, shift_eq]
  omega

/-- The shift of a magnitude is read off the number of bits of its value. -/
theorem log2_units_sub (m : Magnitude) : m.units.log2 - 52 = m.shift := by
  by_cases hm : m.rank < 2 ^ 53
  · have hshift : m.shift = 0 := by
      rw [shift_eq]; omega
    rw [units_eq_rank hm, hshift]
    by_cases hzero : m.rank = 0
    · simp [hzero]
    · have := (Nat.log2_lt hzero).mpr hm
      omega
  · obtain ⟨hlow, hhigh⟩ := significand_mem (Nat.le_of_not_lt hm)
    have hpos : m.significand * 2 ^ m.shift ≠ 0 :=
      Nat.mul_ne_zero (by omega) (Nat.ne_of_gt (Nat.two_pow_pos _))
    -- The significand has 53 bits, and the shift puts as many zeros behind them.
    have hlog : m.units.log2 = 52 + m.shift := by
      rw [units_eq, Nat.log2_eq_iff hpos, Nat.pow_add, Nat.add_right_comm, Nat.pow_add]
      exact ⟨Nat.mul_le_mul_right _ hlow,
        Nat.mul_lt_mul_of_pos_right hhigh (Nat.two_pow_pos _)⟩
    omega

/-- Rounding a value that is a magnitude's own gives the rank of that magnitude. -/
theorem nearestRank_units (m : Magnitude) {den : Nat} (hden : 0 < den) :
    nearestRank (m.units * den) den = m.rank := by
  have hvalue : m.units * den = m.significand * (den * 2 ^ m.shift) := by
    rw [units_eq, Nat.mul_assoc, Nat.mul_comm den]
  have hround : roundEven (m.units * den) (den * 2 ^ m.shift) = m.significand := by
    rw [hvalue]
    exact roundEven_mul_right _ (Nat.mul_pos hden (Nat.two_pow_pos _))
  -- The subtraction in the significand does not cut off.
  have hle : m.shift * 2 ^ 52 ≤ m.rank := by
    rw [shift_eq]; omega
  rw [nearestRank, Nat.mul_div_cancel _ hden, log2_units_sub, Nat.shiftLeft_eq, Nat.shiftLeft_eq,
    hround, significand_eq]
  omega

theorem ofUnits?_units (m : Magnitude) {den : Nat} (hden : 0 < den) :
    ofUnits? (m.units * den) den = some m := by
  simp [ofUnits?, nearestRank_units m hden, m.rank_lt]

theorem units_pos {m : Magnitude} (hm : m.rank ≠ 0) : 0 < m.units := by
  by_cases hlow : m.rank < 2 ^ 53
  · rw [units_eq_rank hlow]
    omega
  · have := (significand_mem (Nat.le_of_not_lt hlow)).1
    rw [units_eq]
    exact Nat.mul_pos (by omega) (Nat.two_pow_pos _)

theorem ofUnits?_exact (m : Magnitude) (k : Nat) :
    ofUnits? (m.units * Nat.pow 5 k * 1 <<< k) (Nat.pow 10 k) = some m := by
  have hten : Nat.pow 5 k * 1 <<< k = Nat.pow 10 k := by
    rw [Nat.shiftLeft_eq, Nat.one_mul]
    exact (Nat.mul_pow 5 2 k).symm
  rw [Nat.mul_assoc, hten]
  exact ofUnits?_units m (Nat.pow_pos (by decide))

theorem le_log2_exact {m : Magnitude} (hm : m.rank ≠ 0) (k : Nat) :
    m.units * Nat.pow 5 k ≠ 0 ∧ k ≤ (m.units * Nat.pow 5 k).log2 := by
  have hunits := units_pos hm
  have hfive : 0 < Nat.pow 5 k := Nat.pow_pos (by decide)
  have hpos : m.units * Nat.pow 5 k ≠ 0 := Nat.ne_of_gt (Nat.mul_pos hunits hfive)
  refine ⟨hpos, (Nat.le_log2 hpos).mpr ?_⟩
  calc 2 ^ k ≤ 5 ^ k := Nat.pow_le_pow_left (by decide) k
    _ ≤ m.units * Nat.pow 5 k := Nat.le_mul_of_pos_left _ hunits

/-- A decimal below one is not too small for its power of ten if the coefficient has as
    many bits as the exponent has places. -/
theorem magnitude?_of_le_log2 {coefficient places : Nat} (hne : coefficient ≠ 0)
    (hplaces : 0 < places) (hlog : places ≤ coefficient.log2) :
    ({ coefficient, exponent := -(places : Int) } : Decimal).magnitude? =
      ofUnits? (coefficient * unitsPerOne) (Nat.pow 10 places) := by
  rw [Decimal.magnitude?, if_neg hne, if_neg (by simp only; omega), if_neg (by simp only; omega),
    if_neg (by simp only; omega)]
  simp

/-- All the digits of a positive magnitude read back as it. -/
theorem magnitude?_exact {m : Magnitude} (hm : m.rank ≠ 0) : m.exact.magnitude? = some m := by
  obtain ⟨hpos, hlog⟩ := le_log2_exact hm unitPlaces
  have hread := magnitude?_of_le_log2 hpos (by decide) hlog
  rw [unitsPerOne, ofUnits?_exact m unitPlaces] at hread
  exact hread

/-- Every candidate was read back before it was taken. -/
theorem magnitude?_of_nearer? {tie : Tie} {m : Magnitude} {middle : Ordering}
    {below above d : Decimal} (hd : m.nearer? tie middle below above = some d) :
    d.magnitude? = some m := by
  unfold nearer? at hd
  split at hd
  next hbelow =>
    split at hd
    next habove =>
      have hboth : d = below ∨ d = above := by grind
      rcases hboth with rfl | rfl
      · exact hbelow
      · exact habove
    next => cases hd; exact hbelow
  next =>
    split at hd
    next habove => cases hd; exact habove
    next => simp at hd

/-- The shortest decimal of a magnitude reads back as it. -/
theorem magnitude?_shortest (tie : Tie) (m : Magnitude) :
    (m.shortest tie).magnitude? = some m := by
  rw [shortest]
  split
  next hzero =>
    rw [Decimal.magnitude?, if_pos rfl]
    cases m
    simp_all [zero]
  next hpos =>
    -- Whether seventeen digits are enough need not be known: the last resort is exact.
    cases hfound : (List.range' 1 17).findSome? (m.shortestOf? tie) with
    | none => exact magnitude?_exact hpos
    | some d =>
      obtain ⟨count, -, hcount⟩ := List.exists_of_findSome?_eq_some hfound
      exact magnitude?_of_nearer? hcount

end Magnitude

namespace Decimal

/-- The magnitude of a whole decimal does not change when the zeros of its power of
    ten are written out. -/
theorem magnitude?_whole {d : Decimal} {m : Magnitude} (hd : d.magnitude? = some m)
    (hexponent : 0 ≤ d.exponent) :
    ({ coefficient := d.coefficient * 10 ^ d.exponent.toNat, exponent := 0 } : Decimal).magnitude? =
      some m := by
  by_cases hzero : d.coefficient = 0
  · rw [magnitude?, if_pos hzero] at hd
    rw [magnitude?, if_pos (by simp [hzero]), hd]
  · have hlow : ¬ 330 ≤ d.exponent := by
      intro hhigh
      rw [magnitude?, if_neg hzero, if_pos hhigh] at hd
      simp at hd
    have hpos : d.coefficient * 10 ^ d.exponent.toNat ≠ 0 :=
      Nat.mul_ne_zero hzero (Nat.ne_of_gt (Nat.pow_pos (by decide)))
    rw [magnitude?, if_neg hzero, if_neg hlow, if_neg (by omega), if_pos hexponent] at hd
    rw [magnitude?, if_neg hpos, if_neg (by simp), if_neg (by simp only; omega), if_pos (by simp)]
    simpa using hd

end Decimal

end TriggerCompose
