import TriggerCompose.Proofs.Number.Shortest
import TriggerCompose.Proofs.Text.Spans

/-!
# Displayed doubles read back

The text of a finite double in scripts and messages is a number text, and the double
that it denotes is the one that was written, down to the sign of zero.

## Main definitions

* `Decimal.carriesOn`: the characters that would carry a number text on.

## Main statements

* `Decimal.spanLiteral?_whole`, `Decimal.spanLiteral?_fraction`: where a literal ends.
* `Decimal.spanLiteral?_positional`: positional notation is a number text for the
  magnitude of the decimal.
* `Double.ofText?_display`: a displayed double reads back.
* `Double.mem_display`: the characters of a displayed double.
-/

namespace TriggerCompose

namespace Decimal

/-- Digits are read up to the first character that is none. -/
theorem spanDigits_append {ds rest : List Char} (hds : ∀ c ∈ ds, c.isDigit)
    (hrest : rest.head?.any Char.isDigit = false) : spanDigits (ds ++ rest) = (ds, rest) := by
  obtain ⟨htake, hdrop⟩ := Text.span_append hds hrest
  rw [spanDigits, htake, hdrop]

/-! ### Where a literal ends -/

/-- A character that would carry a number text on. -/
def carriesOn (c : Char) : Bool :=
  c.isDigit || c == '.' || c == 'e' || c == 'E'

section

variable {rest : List Char} (hrest : rest.head?.any carriesOn = false)

include hrest

theorem head?_isDigit_of_carriesOn : rest.head?.any Char.isDigit = false := by
  cases rest with
  | nil => rfl
  | cons c rest => simp_all [carriesOn]

theorem spanFraction_of_carriesOn : spanFraction rest = (none, rest) := by
  cases rest with
  | nil => rfl
  | cons c rest =>
    have hpoint : c ≠ '.' := by
      rintro rfl
      simp [carriesOn] at hrest
    rw [spanFraction]
    simp [hpoint]

theorem spanExponent?_of_carriesOn : spanExponent? rest = some (none, rest) := by
  cases rest with
  | nil => rfl
  | cons c rest => simp_all [carriesOn, spanExponent?]

end

theorem spanLiteral?_of_spans {text afterWhole afterFraction rest whole : List Char}
    {fraction? : Option (List Char)} {exponent? : Option Int}
    (hwhole : spanDigits text = (whole, afterWhole)) (hne : whole ≠ [])
    (hfraction : spanFraction afterWhole = (fraction?, afterFraction))
    (hexponent : spanExponent? afterFraction = some (exponent?, rest)) :
    spanLiteral? text = some ({ whole, fraction?, exponent? }, rest) := by
  simp [spanLiteral?, hwhole, hne, hfraction, hexponent]

theorem spanLiteral?_whole {whole rest : List Char} (hwhole : ∀ c ∈ whole, c.isDigit)
    (hne : whole ≠ []) (hrest : rest.head?.any carriesOn = false) :
    spanLiteral? (whole ++ rest) =
      some ({ whole, fraction? := none, exponent? := none }, rest) :=
  spanLiteral?_of_spans (spanDigits_append hwhole (head?_isDigit_of_carriesOn hrest)) hne
    (spanFraction_of_carriesOn hrest) (spanExponent?_of_carriesOn hrest)

theorem spanLiteral?_fraction {whole fraction rest : List Char}
    (hwhole : ∀ c ∈ whole, c.isDigit) (hne : whole ≠ []) (hfraction : ∀ c ∈ fraction, c.isDigit)
    (hrest : rest.head?.any carriesOn = false) :
    spanLiteral? (whole ++ '.' :: (fraction ++ rest)) =
      some ({ whole, fraction? := some fraction, exponent? := none }, rest) := by
  have hspan : spanDigits (fraction ++ rest) = (fraction, rest) :=
    spanDigits_append hfraction (head?_isDigit_of_carriesOn hrest)
  have hpoint : spanFraction ('.' :: (fraction ++ rest)) = (some fraction, rest) := by
    rw [spanFraction, hspan]
  exact spanLiteral?_of_spans (spanDigits_append hwhole rfl) hne hpoint
    (spanExponent?_of_carriesOn hrest)

/-! ### Positional notation -/

theorem isDigit_of_mem_digits {d : Decimal} {c : Char} (hc : c ∈ d.digits) : c.isDigit :=
  Nat.isDigit_of_mem_toDigits (by decide) (by decide) hc

theorem isDigit_of_mem_replicate_append {d : Decimal} {n : Nat} {c : Char}
    (hc : c ∈ List.replicate n '0' ++ d.digits ∨ c ∈ d.digits ++ List.replicate n '0') :
    c.isDigit := by
  have hdigit : c ∈ List.replicate n '0' ∨ c ∈ d.digits := by
    simpa [or_comm] using hc
  rcases hdigit with hzero | hdigit
  · rw [List.eq_of_mem_replicate hzero]
    decide
  · exact isDigit_of_mem_digits hdigit

theorem digits_ne_nil (d : Decimal) : d.digits ≠ [] :=
  Nat.toDigits_ne_nil

theorem positional_of_nonneg {d : Decimal} (hexponent : 0 ≤ d.exponent) :
    d.positional = d.digits ++ List.replicate d.exponent.toNat '0' := by
  rw [positional, if_pos hexponent]

/-- A whole decimal is written as its digits with the zeros of its power of ten. -/
theorem positional_whole {d : Decimal} (hexponent : 0 ≤ d.exponent) :
    d.positional ≠ [] ∧ (∀ c ∈ d.positional, c.isDigit) ∧
      Nat.ofDigitChars 10 d.positional 0 = d.coefficient * 10 ^ d.exponent.toNat := by
  rw [positional_of_nonneg hexponent]
  refine ⟨?_, ?_, ?_⟩
  · simp [digits_ne_nil]
  · intro c hc
    exact isDigit_of_mem_replicate_append (.inr hc)
  · rw [Nat.ofDigitChars_append, digits, Nat.ofDigitChars_ten_toDigits,
      Nat.ofDigitChars_replicate_zero, Nat.mul_comm]

theorem head?_toDigits {n : Nat} (hn : n ≠ 0) : (Nat.toDigits 10 n).head? ≠ some '0' := by
  induction n using Nat.strongRecOn with
  | ind n ih =>
    by_cases hsmall : n < 10
    · rw [Nat.toDigits_of_lt_base hsmall]
      simpa using hn
    · have hmore : Nat.toDigits 10 n = Nat.toDigits 10 (n / 10) ++ [(n % 10).digitChar] :=
        Nat.toDigits_of_base_le (by decide) (by omega)
      obtain ⟨c, rest, hcons⟩ := List.exists_cons_of_ne_nil (Nat.toDigits_ne_nil (n := n / 10))
      have hhead := ih (n / 10) (by omega) (by omega)
      rw [hcons] at hhead
      rw [hmore, hcons]
      simpa using hhead

/-- A decimal below one unit in its last place is written as digits around a point,
    with as many after it as the exponent says, and with no zero in front but the one
    before the point. -/
theorem positional_of_neg {d : Decimal} (hexponent : d.exponent < 0) :
    ∃ whole fraction, d.positional = whole ++ '.' :: fraction ∧ whole ≠ [] ∧
      (∀ c ∈ whole ++ fraction, c.isDigit) ∧ (fraction.length : Int) = -d.exponent ∧
      Nat.ofDigitChars 10 (whole ++ fraction) 0 = d.coefficient ∧
      (d.coefficient ≠ 0 → whole.length = 1 ∨ whole.head? ≠ some '0') := by
  let places := (-d.exponent).toNat
  let padded := List.replicate (places + 1 - d.digits.length) '0' ++ d.digits
  -- Zeros in front make room for at least one digit before the point.
  have hlength : places + 1 ≤ padded.length := by
    simp only [padded, List.length_append, List.length_replicate]
    omega
  refine ⟨padded.take (padded.length - places), padded.drop (padded.length - places),
    ?_, ?_, ?_, ?_, ?_, ?_⟩
  · rw [positional, if_neg (by omega)]
  · rw [ne_eq, List.take_eq_nil_iff]
    rintro (hnone | hempty)
    · omega
    · simp [hempty] at hlength
  · intro c hc
    rw [List.take_append_drop] at hc
    exact isDigit_of_mem_replicate_append (.inl hc)
  · rw [List.length_drop]
    omega
  · rw [List.take_append_drop, Nat.ofDigitChars_append, Nat.ofDigitChars_replicate_zero,
      Nat.mul_zero, digits, Nat.ofDigitChars_ten_toDigits]
  · intro hcoefficient
    by_cases hshort : d.digits.length ≤ places
    · have hpadded : padded.length = places + 1 := by
        simp only [padded, List.length_append, List.length_replicate]
        omega
      left
      rw [List.length_take]
      omega
    · have hnone : places + 1 - d.digits.length = 0 := by omega
      have hpadded : padded = d.digits := by
        simp only [padded, hnone, List.replicate_zero, List.nil_append]
      right
      rw [List.head?_take, if_neg (by omega), hpadded]
      exact head?_toDigits hcoefficient

/-- The positional text of a decimal is a number text for the same magnitude. -/
theorem spanLiteral?_positional {d : Decimal} {m : Magnitude} (hd : d.magnitude? = some m) :
    ∃ l, spanLiteral? d.positional = some (l, []) ∧ l.value.magnitude? = some m := by
  by_cases hexponent : 0 ≤ d.exponent
  · obtain ⟨hne, hdigits, hvalue⟩ := positional_whole hexponent
    have hspan := @spanLiteral?_whole d.positional [] hdigits hne rfl
    rw [List.append_nil] at hspan
    refine ⟨_, hspan, ?_⟩
    simpa [Literal.value, hvalue] using magnitude?_whole hd hexponent
  · obtain ⟨whole, fraction, htext, hne, hdigits, hplaces, hvalue, -⟩ :=
      positional_of_neg (Int.not_le.mp hexponent)
    have hspan := @spanLiteral?_fraction whole fraction [] (fun c hc => hdigits c (by simp [hc]))
      hne (fun c hc => hdigits c (by simp [hc])) rfl
    rw [List.append_nil, ← htext] at hspan
    refine ⟨_, hspan, ?_⟩
    simpa [Literal.value, hvalue, hplaces] using hd

theorem isDigit_or_point {d : Decimal} {c : Char} (hc : c ∈ d.positional) :
    c.isDigit ∨ c = '.' := by
  by_cases hexponent : 0 ≤ d.exponent
  · exact .inl ((positional_whole hexponent).2.1 c hc)
  · obtain ⟨whole, fraction, htext, -, hdigits, -⟩ :=
      positional_of_neg (Int.not_le.mp hexponent)
    rw [htext, List.mem_append, List.mem_cons] at hc
    rcases hc with hwhole | hpoint | hfraction
    · exact .inl (hdigits c (List.mem_append_left _ hwhole))
    · exact .inr hpoint
    · exact .inl (hdigits c (List.mem_append_right _ hfraction))

/-- A positional text starts with a digit, so no sign is read off it. -/
theorem exists_digit_cons (d : Decimal) : ∃ c rest, d.positional = c :: rest ∧ c.isDigit := by
  by_cases hexponent : 0 ≤ d.exponent
  · obtain ⟨c, rest, hcons⟩ := List.exists_cons_of_ne_nil d.digits_ne_nil
    refine ⟨c, rest ++ List.replicate d.exponent.toNat '0', ?_, isDigit_of_mem_digits (d := d) ?_⟩
    · rw [positional_of_nonneg hexponent, hcons, List.cons_append]
    · simp [hcons]
  · obtain ⟨whole, fraction, htext, hne, hdigits, -⟩ :=
      positional_of_neg (Int.not_le.mp hexponent)
    obtain ⟨c, rest, hcons⟩ := List.exists_cons_of_ne_nil hne
    refine ⟨c, rest ++ '.' :: fraction, ?_, hdigits c ?_⟩
    · rw [htext, hcons, List.cons_append]
    · simp [hcons]

theorem spanSign_positional (d : Decimal) : spanSign d.positional = (false, d.positional) := by
  obtain ⟨c, rest, htext, hdigit⟩ := d.exists_digit_cons
  have hplus : c ≠ '+' := by rintro rfl; simp at hdigit
  have hminus : c ≠ '-' := by rintro rfl; simp at hdigit
  rw [htext, spanSign]
  · simp [hplus]
  · simp [hminus]

end Decimal

namespace Double

theorem display_finite (x : Finite) :
    (finite x).display =
      (if x.negative then ['-'] else []) ++ (x.magnitude.shortest .up).positional := by
  cases hsign : x.negative <;>
    simp [display, Finite.written, Magnitude.written, Number.script, hsign]

theorem ofText?_of_spanLiteral? {text rest : List Char} {negative : Bool} {l : Decimal.Literal}
    (hsign : Decimal.spanSign text = (negative, rest))
    (hspan : Decimal.spanLiteral? rest = some (l, [])) :
    ofText? text = some (ofDecimal negative l.value) := by
  simp [ofText?, hsign, hspan]

/-- The script text of a finite double reads back as that double, sign of zero included. -/
theorem ofText?_display (x : Finite) : ofText? (finite x).display = some (finite x) := by
  obtain ⟨l, hspan, hvalue⟩ :=
    Decimal.spanLiteral?_positional (Magnitude.magnitude?_shortest .up x.magnitude)
  have hsign : Decimal.spanSign (finite x).display =
      (x.negative, (x.magnitude.shortest .up).positional) := by
    rw [display_finite]
    cases x.negative with
    | false => exact Decimal.spanSign_positional _
    | true => rfl
  rw [ofText?_of_spanLiteral? hsign hspan, ofDecimal, hvalue]

theorem display_ne_nil (x : Finite) : (finite x).display ≠ [] := by
  obtain ⟨c, rest, htext, -⟩ := (x.magnitude.shortest .up).exists_digit_cons
  simp [display_finite, htext]

theorem mem_display {x : Finite} {c : Char} (hc : c ∈ (finite x).display) :
    c.isDigit ∨ c = '.' ∨ c = '-' := by
  rw [display_finite, List.mem_append] at hc
  rcases hc with hsign | hdigit
  · split at hsign
    · exact .inr (.inr (by simpa using hsign))
    · simp at hsign
  · rcases Decimal.isDigit_or_point hdigit with hdigit | hpoint
    · exact .inl hdigit
    · exact .inr (.inl hpoint)

end Double

end TriggerCompose
