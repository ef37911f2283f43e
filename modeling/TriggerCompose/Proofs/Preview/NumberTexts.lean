import TriggerCompose.Proofs.Json.Number
import TriggerCompose.Proofs.Preview.Keys
import Mathlib.Algebra.Order.Round
import Mathlib.Data.Rat.Floor

/-!
# Numbers given as texts

A service may give the numbers of a result as texts. The text of a number has the integer and
the nearest double of the number, and what cells are read as depends on nothing else. So a
number and its text between blank characters have one key and one count, and the count is the
value of the number, rounded and cut off at the largest word.

## Main definitions

* `Json.Number.value`: the exact value of a number.
* `Preview.Cell.CountOf`: the count of a number.

## Main statements

* `Json.Number.exists_spelling_written`: what the text of a number is read as.
* `Preview.Cell.countOf_number`: the count of a number.
* `Preview.Cell.same_coercion`: a number and its text.
-/

namespace TriggerCompose

/-! ### The texts of numbers -/

/-- The exact value of a double. -/
def Finite.value (x : Finite) : ℚ :=
  (if x.negative then -1 else 1) * (x.magnitude.units / 2 ^ Magnitude.unitPlaces)

namespace Json.Number

open TriggerCompose.Number (Sign Spelling)

/-- The number as an integer, if it is one. -/
def integer? : Json.Number → Option Int
  | integer n _ => some n
  | real _ => none

theorem exists_spelling_of_numeral {text : List Char} {l : Decimal.Literal} (h : Numeral text l)
    (negative : Bool) :
    ∃ s : Spelling, s.text = (if negative then '-' :: text else text) ∧
      s.integer? = l.natural?.map (Sign.ofNegative negative).apply ∧
      s.nearest = .ofDecimal negative l.value := by
  have hread := h.span [] rfl
  rw [List.append_nil] at hread
  obtain ⟨s, htext, hsign, rfl⟩ :=
    Number.exists_spelling_of_spanLiteral? hread (Sign.ofNegative negative)
  refine ⟨s, ?_, ?_, ?_⟩
  · rw [htext]
    cases negative <;> rfl
  · rw [Spelling.integer?, hsign]
  · rw [Spelling.nearest, hsign, Sign.isNegative_ofNegative]

/-- The text of a number is a number text with the same integer and the same double. -/
theorem exists_spelling_written (n : Json.Number) :
    ∃ s : Spelling, s.text = n.written ∧ s.integer? = n.integer? ∧ s.nearest = n.double := by
  cases n with
  | integer n inRange =>
    obtain ⟨s, htext, hinteger, hnearest⟩ :=
      exists_spelling_of_numeral (numeral_toDigits n.natAbs) (decide (n < 0))
    have hvalue : Nat.ofDigitChars 10 (Nat.toDigits 10 n.natAbs) 0 = n.natAbs :=
      Nat.ofDigitChars_ten_toDigits
    refine ⟨s, ?_, ?_, ?_⟩
    · rw [htext, written]
      simp only [decide_eq_true_eq]
    · rw [hinteger, Decimal.Literal.natural?, Option.map_some, hvalue, Sign.apply_ofNegative]
      rfl
    · rw [hnearest, double]
      simp [Decimal.Literal.value, hvalue]
  | real x =>
    obtain ⟨l, hnumeral, hnatural, hread⟩ := exists_numeral_written x.magnitude
    obtain ⟨s, htext, hinteger, hnearest⟩ := exists_spelling_of_numeral hnumeral x.negative
    refine ⟨s, htext, ?_, ?_⟩
    · rw [hinteger, hnatural]
      rfl
    · rw [hnearest, Double.ofDecimal, hread]
      rfl

/-- The exact value of a number. -/
def value : Json.Number → ℚ
  | integer n _ => n
  | real x => x.value

end Json.Number

/-! ### Cells -/

namespace Preview.Cell

open Text (isBlankText)

theorem int64?_eq (n : Json.Number) : n.int64? = n.integer?.bind wordOf? := by
  cases n with
  | integer n inRange => exact int64?_integer n inRange
  | real x => rfl

theorem key?_written {n : Json.Number} {s : String} (htrim : Text.trim s.toList = n.written) :
    key? (.string s) = key? (.number n) := by
  obtain ⟨spelling, htext, hinteger, hnearest⟩ := n.exists_spelling_written
  rw [key?_text (htrim.trans htext.symm), hinteger, hnearest, ← int64?_eq]
  rfl

theorem integer?_written (n : Json.Number) : Number.integer? n.written = n.integer? := by
  obtain ⟨spelling, htext, hinteger, -⟩ := n.exists_spelling_written
  rw [← htext, spelling.integer?_text, hinteger]

/-- The reader for unsigned words looks for a minus sign first. -/
theorem unsigned?_of_head? {text : List Char} (htext : text.head? ≠ some '-') :
    Number.unsigned? text = (Number.integer? text).bind fun n =>
      if n < UInt64.size then some (UInt64.ofNat n.toNat) else none := by
  unfold Number.unsigned?
  split
  next => exact absurd rfl htext
  next => rfl

theorem unsigned?_written (n : Json.Number) : Number.unsigned? n.written = n.uint64? := by
  have hinteger := integer?_written n
  cases n with
  | integer n inRange =>
    by_cases hn : n < 0
    · rw [Json.Number.written, if_pos hn, Json.Number.uint64?, if_neg (Int.not_le.mpr hn)]
      rfl
    · have hsize : n < UInt64.size := inRange.2
      have hhead : (Json.Number.integer n inRange).written.head? ≠ some '-' := by
        obtain ⟨c, later, htext, hdigit⟩ := (Json.numeral_toDigits n.natAbs).exists_cons
        rw [Json.Number.written, if_neg hn, htext, List.head?_cons]
        rintro ⟨⟩
        cases hdigit
      rw [unsigned?_of_head? hhead, hinteger, Json.Number.uint64?, if_pos (Int.not_lt.mp hn)]
      exact if_pos hsize
  | real x =>
    by_cases hhead : (Json.Number.real x).written.head? = some '-'
    · obtain ⟨later, htext⟩ := List.head?_eq_some_iff.mp hhead
      rw [htext]
      rfl
    · rw [unsigned?_of_head? hhead, hinteger]
      rfl

theorem count?_written {n : Json.Number} {s : String} (htrim : Text.trim s.toList = n.written) :
    count? (.string s) = count? (.number n) := by
  obtain ⟨spelling, htext, -, hnearest⟩ := n.exists_spelling_written
  have hdouble : Double.ofText? n.written = some n.double := by
    rw [← htext, spelling.ofText?_text, hnearest]
  simp [count?, countOfText?, htrim, unsigned?_written, hdouble]

/-! ### Counts -/

/-- The count of a number: an integer that fits an unsigned word as it is, every other number
    that is not negative rounded to the nearest integer and cut off at the largest word, and none
    for a negative number. A half goes up, which is away from zero. -/
structure CountOf (n : Json.Number) (count? : Option UInt64) : Prop where
  word : ∀ k, n.integer? = some k → 0 ≤ k → ∃ count, count? = some count ∧ count.toNat = k
  rounded : 0 ≤ n.value →
    ∃ count, count? = some count ∧ (count.toNat : ℤ) = min (round n.value) (2 ^ 64 - 1)
  negative : n.value < 0 → count? = none

theorem round_units (m : Magnitude) :
    round ((m.units : ℚ) / 2 ^ Magnitude.unitPlaces) = (m.round : ℤ) := by
  have hhalf : (m.units : ℚ) / 2 ^ Magnitude.unitPlaces + 1 / 2 =
      ((2 * m.units + Magnitude.unitsPerOne : Nat) : ℚ) / ((2 * Magnitude.unitsPerOne : Nat) : ℚ) := by
    push_cast
    rw [Decimal.cast_unitsPerOne]
    field_simp
  rw [round_eq, hhalf, Rat.floor_natCast_div_natCast, Magnitude.round]
  rfl

theorem countOfDouble?_of_kept {x : Finite} (h : ¬ (x.negative ∧ x.magnitude ≠ Magnitude.zero)) :
    ∃ count, countOfDouble? (.finite x) = some count ∧
      count.toNat = min x.magnitude.round (2 ^ 64 - 1) :=
  ⟨_, if_neg h, Number.toNat_ofNatClamp _⟩

/-- The sign of a value is that of its double, unless the double is zero. -/
theorem value_cases (x : Finite) :
    (x.value < 0 ∧ x.negative ∧ x.magnitude ≠ Magnitude.zero) ∨
      (x.value = x.magnitude.units / 2 ^ Magnitude.unitPlaces ∧
        ¬ (x.negative ∧ x.magnitude ≠ Magnitude.zero)) := by
  by_cases hzero : x.magnitude = Magnitude.zero
  · have hunits : x.magnitude.units = 0 := by
      rw [hzero]
      rfl
    right
    refine ⟨?_, fun h => h.2 hzero⟩
    rw [Finite.value, hunits]
    simp
  · cases hnegative : x.negative with
    | false =>
      right
      rw [Finite.value, hnegative]
      simp
    | true =>
      left
      have hrank : x.magnitude.rank ≠ 0 := by
        intro hrank
        apply hzero
        cases hx : x.magnitude
        simp_all [Magnitude.zero]
      have hunits : (0 : ℚ) < x.magnitude.units := by
        exact_mod_cast Magnitude.units_pos hrank
      refine ⟨?_, rfl, hzero⟩
      rw [Finite.value, hnegative]
      simp only [if_true, neg_one_mul, Left.neg_neg_iff]
      positivity

theorem countOf_real (x : Finite) : CountOf (.real x) (count? (.number (.real x))) where
  word := nofun
  rounded := by
    intro hvalue
    rcases value_cases x with ⟨hnegative, -⟩ | ⟨hunits, hkept⟩
    · exact absurd hvalue (not_le.mpr hnegative)
    · obtain ⟨count, hcount, hclamp⟩ := countOfDouble?_of_kept hkept
      refine ⟨count, hcount, ?_⟩
      rw [Json.Number.value, hunits, round_units, hclamp]
      omega
  negative := by
    intro hvalue
    rcases value_cases x with ⟨-, hnegative⟩ | ⟨hunits, -⟩
    · exact if_pos hnegative
    · rw [Json.Number.value, hunits] at hvalue
      exact absurd hvalue (not_lt.mpr (by positivity))

/-- The double nearest to a negative integer is not zero. -/
theorem countOfDouble?_of_neg {n : Int} (hn : n < 0) :
    countOfDouble? (.ofDecimal true { coefficient := n.natAbs, exponent := 0 }) = none := by
  have hnearest := Double.isNearest_ofDecimal true { coefficient := n.natAbs, exponent := 0 }
  cases hx : Double.ofDecimal true { coefficient := n.natAbs, exponent := 0 } with
  | nan => rfl
  | infinite negative => rfl
  | finite x =>
    rw [hx] at hnearest
    obtain ⟨hnegative, hrank⟩ := hnearest
    have hone : ((Magnitude.unitsAt 1 : Nat) : ℚ) ≤
        Decimal.units { coefficient := n.natAbs, exponent := 0 } := by
      have hsize : (1 : ℚ) ≤ n.natAbs := by
        exact_mod_cast Int.natAbs_pos.mpr (Int.ne_of_lt hn)
      have hpower : (1 : ℚ) ≤ 2 ^ Magnitude.unitPlaces := one_le_pow₀ (by norm_num)
      rw [Decimal.units, zpow_zero, mul_one]
      exact one_le_mul_of_one_le_of_one_le hsize hpower
    have hpositive := hrank.le_of_unitsAt_le hone
    refine if_pos ⟨hnegative, fun hzero => ?_⟩
    rw [hzero] at hpositive
    exact absurd hpositive (by decide)

theorem countOf_integer (n : Int) (inRange : -0x8000000000000000 ≤ n ∧ n < 0x10000000000000000) :
    CountOf (.integer n inRange) (count? (.number (.integer n inRange))) := by
  have hword : 0 ≤ n → ∃ count, count? (.number (.integer n inRange)) = some count ∧
      (count.toNat : ℤ) = n := by
    intro hn
    refine ⟨UInt64.ofNat n.toNat, ?_, ?_⟩
    · simp [count?, Json.Number.uint64?, hn]
    · rw [UInt64.toNat_ofNat_of_lt' (by have := inRange.2; simp only [UInt64.size]; omega)]
      omega
  refine ⟨?_, ?_, ?_⟩
  · rintro _ ⟨⟩ hn
    exact hword hn
  · intro hvalue
    have hn : 0 ≤ n := Int.cast_nonneg_iff.mp hvalue
    obtain ⟨count, hcount, htoNat⟩ := hword hn
    refine ⟨count, hcount, ?_⟩
    rw [htoNat, Json.Number.value, round_intCast]
    have := inRange.2
    omega
  · intro hvalue
    have hn : n < 0 := Int.cast_lt_zero.mp hvalue
    have hword : (Json.Number.integer n inRange).uint64? = none := if_neg (Int.not_le.mpr hn)
    simp [count?, hword, Json.Number.double, hn, countOfDouble?_of_neg hn]

theorem countOf_number (n : Json.Number) : CountOf n (count? (.number n)) := by
  cases n with
  | integer n inRange => exact countOf_integer n inRange
  | real x => exact countOf_real x

/-- A number and its text, with any blank characters around the text, have one key and one
    count, and the count is the rounded value of the number. -/
theorem same_coercion (n : Json.Number) :
    (∀ before after : String, isBlankText before → isBlankText after →
      key? (.string (before ++ String.ofList n.written ++ after)) = key? (.number n) ∧
        count? (.string (before ++ String.ofList n.written ++ after)) = count? (.number n)) ∧
      CountOf n (count? (.number n)) := by
  refine ⟨?_, countOf_number n⟩
  intro before after hbefore hafter
  have htrimmed : Text.IsTrimmed n.written := by
    obtain ⟨spelling, htext, -⟩ := n.exists_spelling_written
    rw [← htext]
    exact spelling.isTrimmed_text
  have htrim : Text.trim (before ++ String.ofList n.written ++ after).toList = n.written := by
    rw [String.toList_append, String.toList_append, String.toList_ofList, List.append_assoc]
    exact htrimmed.trim_append (List.all_eq_true.mp hbefore) (List.all_eq_true.mp hafter)
  exact ⟨key?_written htrim, count?_written htrim⟩

/-- The largest unsigned word is a count, and no key: its nearest double is beyond the signed
    words. -/
theorem same_coercion_largest_word :
    let n : Json.Number := .integer 18446744073709551615 (by decide)
    let cell := Json.string "\u300018446744073709551615 \n"
    isBlankText "\u3000" ∧ isBlankText " \n" ∧ key? cell = key? (.number n) ∧ key? cell = none ∧
      count? cell = count? (.number n) ∧ count? cell = some 18446744073709551615 := by
  intro n cell
  have hbefore : isBlankText "\u3000" := by decide
  have hafter : isBlankText " \n" := by decide
  have htext : "\u3000" ++ String.ofList n.written ++ " \n" = "\u300018446744073709551615 \n" := by
    decide
  obtain ⟨hkey, hcount⟩ := (same_coercion n).1 _ _ hbefore hafter
  rw [htext] at hkey hcount
  exact ⟨hbefore, hafter, hkey, hkey.trans (by decide +kernel), hcount,
    hcount.trans (by decide +kernel)⟩

end Preview.Cell

end TriggerCompose
