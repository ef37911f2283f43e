import TriggerCompose.Json.Token
import TriggerCompose.Proofs.Number.Display
import TriggerCompose.Proofs.Number.Nearest

/-!
# Numbers of JSON texts read back

A number is written as a strict numeral: no superfluous zero in front and a digit after
every point. Such a text is read up to the first character that does not carry it on, and
what is read is the number that was written, an integer as an integer and a double as
that double.

## Main definitions

* `Json.Numeral`: a text that is read as a strict literal.

## Main statements

* `Magnitude.ofUnits?_mul_left`: rounding a quotient does not depend on its terms.
* `Json.exists_numeral_written`: a written magnitude is a numeral of that magnitude.
* `Json.Token.isNearest_of_numberValue?`: a literal that is read as a double is read as the
  nearest one.
* `Json.Token.spanNumber?_written`: a written number reads back.
-/

namespace TriggerCompose

/-! ### Rounding -/

namespace Magnitude

theorem roundEven_mul_left {k : Nat} (hk : 0 < k) (num den : Nat) :
    roundEven (k * num) (k * den) = roundEven num den := by
  have hlow : 2 * (k * (num % den)) < k * den ↔ 2 * (num % den) < den := by
    rw [Nat.mul_left_comm, Nat.mul_lt_mul_left hk]
  have hhigh : k * den < 2 * (k * (num % den)) ↔ den < 2 * (num % den) := by
    rw [Nat.mul_left_comm, Nat.mul_lt_mul_left hk]
  simp only [roundEven, Nat.mul_div_mul_left num den hk, Nat.mul_mod_mul_left, hlow, hhigh]

/-- The nearest magnitude to a quotient does not change when the quotient is extended. -/
theorem ofUnits?_mul_left {k : Nat} (hk : 0 < k) (num den : Nat) :
    ofUnits? (k * num) (k * den) = ofUnits? num den := by
  have hrank : nearestRank (k * num) (k * den) = nearestRank num den := by
    simp only [nearestRank, Nat.mul_div_mul_left num den hk, Nat.shiftLeft_eq, Nat.mul_assoc,
      roundEven_mul_left hk]
  simp only [ofUnits?, hrank]

end Magnitude

namespace Decimal

/-- A zero after the point of a whole decimal makes no difference. -/
theorem magnitude?_point (coefficient : Nat) :
    ({ coefficient := coefficient * 10, exponent := -1 } : Decimal).magnitude? =
      ({ coefficient, exponent := 0 } : Decimal).magnitude? := by
  by_cases hzero : coefficient = 0
  · rw [magnitude?, magnitude?, if_pos hzero, if_pos (by simp [hzero])]
  · have hten : Nat.pow 10 (-(-1 : Int)).toNat = 10 := rfl
    have hone : coefficient * Nat.pow 10 (0 : Int).toNat = coefficient := Nat.mul_one coefficient
    have hpoint : ({ coefficient := coefficient * 10, exponent := -1 } : Decimal).magnitude? =
        Magnitude.ofUnits? (coefficient * 10 * Magnitude.unitsPerOne) 10 := by
      rw [magnitude?, if_neg (by simp only; omega), if_neg (by simp), if_neg (by simp only; omega),
        if_neg (by simp), hten]
    have hwhole : ({ coefficient, exponent := 0 } : Decimal).magnitude? =
        Magnitude.ofUnits? (coefficient * Magnitude.unitsPerOne) 1 := by
      rw [magnitude?, if_neg hzero, if_neg (by simp), if_neg (by simp only; omega),
        if_pos (by simp), hone]
    have hextend : coefficient * 10 * Magnitude.unitsPerOne =
        10 * (coefficient * Magnitude.unitsPerOne) := by
      rw [Nat.mul_comm coefficient, Nat.mul_assoc]
    rw [hpoint, hwhole, hextend]
    exact Magnitude.ofUnits?_mul_left (by decide) _ 1

theorem coefficient_ne_zero {d : Decimal} {m : Magnitude} (hd : d.magnitude? = some m)
    (hm : m.rank ≠ 0) : d.coefficient ≠ 0 := by
  intro hzero
  rw [magnitude?, if_pos hzero] at hd
  cases hd
  exact hm rfl

/-! ### Exponents -/

theorem spanExponent?_written {rest : List Char} (hrest : rest.head?.any carriesOn = false)
    (n : Int) :
    spanExponent? ('e' :: (if n < 0 then '-' else '+') :: (Nat.toDigits 10 n.natAbs ++ rest)) =
      some (some n, rest) := by
  have hdigits : spanDigits (Nat.toDigits 10 n.natAbs ++ rest) = (Nat.toDigits 10 n.natAbs, rest) :=
    spanDigits_append (fun c hc => Nat.isDigit_of_mem_toDigits (by decide) (by decide) hc)
      (head?_isDigit_of_carriesOn hrest)
  have hne : Nat.toDigits 10 n.natAbs ≠ [] := Nat.toDigits_ne_nil
  generalize hsize : n.natAbs = size at hdigits hne ⊢
  by_cases hn : n < 0
  · have hvalue : -(size : Int) = n := by omega
    simp [spanExponent?, spanSign, hn, hdigits, hne, hvalue]
  · have hvalue : (size : Int) = n := by omega
    simp [spanExponent?, spanSign, hn, hdigits, hne, hvalue]

end Decimal

namespace Json

open Decimal (Literal carriesOn spanDigits spanFraction spanExponent? spanLiteral?)

/-! ### Numerals -/

/-- A text that is read as a strict literal wherever nothing carries it on. -/
structure Numeral (text : List Char) (l : Literal) : Prop where
  head : text.head?.any Char.isDigit
  strict : Token.isStrict l
  span : ∀ rest, rest.head?.any carriesOn = false → spanLiteral? (text ++ rest) = some (l, rest)

theorem Numeral.exists_cons {text : List Char} {l : Literal} (h : Numeral text l) :
    ∃ c later, text = c :: later ∧ c.isDigit := by
  have hhead := h.head
  cases text with
  | nil => cases hhead
  | cons c later => exact ⟨c, later, rfl, hhead⟩

theorem isStrict_of_head? {l : Literal} (hne : l.whole ≠ [])
    (hhead : l.whole.length = 1 ∨ l.whole.head? ≠ some '0') (hfraction : l.fraction? ≠ some []) :
    Token.isStrict l := by
  obtain ⟨whole, fraction?, exponent?⟩ := l
  match whole with
  | [] => exact absurd rfl hne
  | [c] => simpa [Token.isStrict] using hfraction
  | c :: d :: rest =>
    have hc : c ≠ '0' := by simpa using hhead
    simpa [Token.isStrict, hc] using hfraction

theorem numeral_whole {whole : List Char} (hdigits : ∀ c ∈ whole, c.isDigit) (hne : whole ≠ [])
    (hstrict : Token.isStrict { whole, fraction? := none, exponent? := none }) :
    Numeral whole { whole, fraction? := none, exponent? := none } where
  head := by
    obtain ⟨c, rest, rfl⟩ := List.exists_cons_of_ne_nil hne
    exact hdigits c (by simp)
  strict := hstrict
  span _ hrest := Decimal.spanLiteral?_whole hdigits hne hrest

theorem numeral_fraction {whole fraction : List Char} (hwhole : ∀ c ∈ whole, c.isDigit)
    (hne : whole ≠ []) (hfraction : ∀ c ∈ fraction, c.isDigit)
    (hstrict : Token.isStrict { whole, fraction? := some fraction, exponent? := none }) :
    Numeral (whole ++ '.' :: fraction)
      { whole, fraction? := some fraction, exponent? := none } where
  head := by
    obtain ⟨c, rest, rfl⟩ := List.exists_cons_of_ne_nil hne
    exact hwhole c (by simp)
  strict := hstrict
  span rest hrest := by
    rw [List.append_assoc]
    exact Decimal.spanLiteral?_fraction hwhole hne hfraction hrest

/-! ### Written magnitudes -/

/-- A whole decimal with a point and a zero behind it. -/
theorem exists_numeral_point {d : Decimal} {m : Magnitude} (hd : d.magnitude? = some m)
    (hexponent : 0 ≤ d.exponent) (hzero : d.coefficient = 0 → d.exponent = 0) :
    ∃ l, Numeral (d.positional ++ ['.', '0']) l ∧ l.natural? = none ∧
      l.value.magnitude? = some m := by
  obtain ⟨hne, hdigits, hwhole⟩ := Decimal.positional_whole hexponent
  have hvalue : Nat.ofDigitChars 10 (d.positional ++ ['0']) 0 =
      d.coefficient * 10 ^ d.exponent.toNat * 10 := by
    rw [Nat.ofDigitChars_append, hwhole]
    simp [Nat.ofDigitChars_cons, Nat.mul_comm]
  have hfraction : ∀ c ∈ ['0'], c.isDigit := by simp
  refine ⟨_, numeral_fraction hdigits hne hfraction ?_, rfl, ?_⟩
  -- Only zero itself starts with a zero, and it is written without further ones.
  · by_cases hcoefficient : d.coefficient = 0
    · have hpositional : d.positional = ['0'] := by
        rw [Decimal.positional_of_nonneg hexponent, Decimal.digits, hcoefficient, hzero hcoefficient]
        rfl
      rw [hpositional]
      rfl
    · refine isStrict_of_head? hne (.inr ?_) (by simp)
      have hhead := Decimal.head?_toDigits hcoefficient
      rw [Decimal.positional_of_nonneg hexponent]
      simpa [Decimal.digits, List.head?_append] using hhead
  · simpa [Literal.value, hvalue] using
      (Decimal.magnitude?_point _).trans (Decimal.magnitude?_whole hd hexponent)

theorem exists_numeral_positional {d : Decimal} (hexponent : d.exponent < 0)
    (hcoefficient : d.coefficient ≠ 0) :
    ∃ l, Numeral d.positional l ∧ l.natural? = none ∧ l.value = d := by
  obtain ⟨whole, fraction, htext, hne, hdigits, hplaces, hvalue, hhead⟩ :=
    Decimal.positional_of_neg hexponent
  have hfraction : fraction ≠ [] := by
    rintro rfl
    simp only [List.length_nil] at hplaces
    omega
  refine ⟨{ whole, fraction? := some fraction, exponent? := none }, ?_, rfl, ?_⟩
  · rw [htext]
    refine numeral_fraction (fun c hc => hdigits c (by simp [hc])) hne
      (fun c hc => hdigits c (by simp [hc])) ?_
    exact isStrict_of_head? hne (hhead hcoefficient) (by simpa using hfraction)
  · simp [Literal.value, hvalue, hplaces]

/-- Scientific notation keeps the decimal itself. -/
theorem exists_numeral_scientific (d : Decimal) :
    ∃ l, Numeral d.scientific l ∧ l.natural? = none ∧ l.value = d := by
  have hvalue : Nat.ofDigitChars 10 d.digits 0 = d.coefficient := Nat.ofDigitChars_ten_toDigits
  have hdigits : ∀ c ∈ d.digits, c.isDigit := fun c hc => Decimal.isDigit_of_mem_digits hc
  obtain ⟨first, more, hcons⟩ := List.exists_cons_of_ne_nil d.digits_ne_nil
  rw [hcons] at hvalue hdigits
  have hfirst : ∀ c ∈ [first], c.isDigit := by
    simpa using hdigits first List.mem_cons_self
  have hleading : d.leading = d.exponent + more.length := by
    rw [Decimal.leading, hcons, List.length_cons]
    omega
  cases more with
  | nil =>
    refine ⟨{ whole := [first], fraction? := none, exponent? := some d.leading }, ?_, rfl, ?_⟩
    · have htext : d.scientific = [first] ++ 'e' :: (if d.leading < 0 then '-' else '+') ::
          Nat.toDigits 10 d.leading.natAbs := by
        rw [Decimal.scientific, hcons]
        rfl
      rw [htext]
      refine ⟨hdigits first List.mem_cons_self, rfl, fun rest hrest => ?_⟩
      exact Decimal.spanLiteral?_of_spans (Decimal.spanDigits_append hfirst rfl)
        (List.cons_ne_nil _ _) rfl (Decimal.spanExponent?_written hrest d.leading)
    · simp [Literal.value, hvalue, hleading]
  | cons second more =>
    refine ⟨{ whole := [first], fraction? := some (second :: more), exponent? := some d.leading },
      ?_, rfl, ?_⟩
    · have htext : d.scientific = [first] ++ '.' :: (second :: more ++
          'e' :: (if d.leading < 0 then '-' else '+') :: Nat.toDigits 10 d.leading.natAbs) := by
        rw [Decimal.scientific, hcons]
        rfl
      rw [htext]
      refine ⟨hdigits first List.mem_cons_self, rfl, fun rest hrest => ?_⟩
      have hmore : ∀ c ∈ second :: more, c.isDigit := fun c hc => hdigits c (by simp [hc])
      have hspan : ∀ later, spanDigits (second :: more ++ 'e' :: later) =
          (second :: more, 'e' :: later) := fun later => Decimal.spanDigits_append hmore rfl
      simp only [List.append_assoc, List.cons_append]
      refine Decimal.spanLiteral?_of_spans (Decimal.spanDigits_append hfirst rfl)
        (List.cons_ne_nil _ _) ?_ (Decimal.spanExponent?_written hrest d.leading)
      exact congrArg (fun p => (some p.1, p.2)) (hspan _)
    · simp only [Literal.value, Option.getD_some, List.cons_append, List.nil_append, hvalue,
        hleading]
      simp

theorem shortest_eq_zero {m : Magnitude} (tie : Magnitude.Tie) (hm : m.rank = 0) :
    m.shortest tie = { coefficient := 0, exponent := 0 } := by
  rw [Magnitude.shortest, if_pos hm]

/-- A written magnitude is a numeral, with a point or an exponent, of that magnitude. -/
theorem exists_numeral_written (m : Magnitude) :
    ∃ l, Numeral (m.written Number.json) l ∧ l.natural? = none ∧ l.value.magnitude? = some m := by
  -- What is used of the shortest decimal: it reads back, and zero comes without an exponent.
  obtain ⟨d, hd⟩ : ∃ d, d = m.shortest .even := ⟨_, rfl⟩
  have hread : d.magnitude? = some m := hd ▸ Magnitude.magnitude?_shortest .even m
  have hzero : d.coefficient = 0 → d.exponent = 0 := by
    intro hcoefficient
    by_cases hm : m.rank = 0
    · rw [hd, shortest_eq_zero _ hm]
    · exact absurd hcoefficient (Decimal.coefficient_ne_zero hread hm)
  have hshortest : m.shortest Number.json.tie = d := hd.symm
  simp only [Magnitude.written, hshortest]
  by_cases hpositional : Number.json.isPositional d.leading
  · rw [if_pos hpositional]
    by_cases hexponent : 0 ≤ d.exponent
    · rw [if_pos (by simpa [Number.json] using hexponent)]
      exact exists_numeral_point hread hexponent hzero
    · rw [if_neg (by simpa [Number.json] using hexponent)]
      obtain ⟨l, hnumeral, hnatural, hvalue⟩ := exists_numeral_positional (Int.not_le.mp hexponent)
        fun hcoefficient => hexponent (Int.le_of_eq (hzero hcoefficient).symm)
      exact ⟨l, hnumeral, hnatural, by rw [hvalue, hread]⟩
  · rw [if_neg hpositional]
    obtain ⟨l, hnumeral, hnatural, hvalue⟩ := exists_numeral_scientific d
    exact ⟨l, hnumeral, hnatural, by rw [hvalue, hread]⟩

/-- An integer is written as a numeral without a point. -/
theorem numeral_toDigits (n : Nat) : Numeral (Nat.toDigits 10 n)
    { whole := Nat.toDigits 10 n, fraction? := none, exponent? := none } := by
  have hne : Nat.toDigits 10 n ≠ [] := Nat.toDigits_ne_nil
  refine numeral_whole
    (fun c hc => Nat.isDigit_of_mem_toDigits (by decide) (by decide) hc) hne ?_
  by_cases hn : n = 0
  · have hzero : Nat.toDigits 10 0 = ['0'] := rfl
    rw [hn, hzero]
    rfl
  · exact isStrict_of_head? hne (.inr (Decimal.head?_toDigits hn)) (by simp)

/-! ### Numbers -/

theorem exists_cons_written (n : Json.Number) :
    ∃ c later, n.written = c :: later ∧ (c.isDigit ∨ c = '-') := by
  cases n with
  | integer n =>
    by_cases hn : n < 0
    · exact ⟨_, _, if_pos hn, .inr rfl⟩
    · obtain ⟨c, later, hcons, hdigit⟩ := (numeral_toDigits n.natAbs).exists_cons
      exact ⟨c, later, (if_neg hn).trans hcons, .inl hdigit⟩
  | real x =>
    by_cases hx : x.negative
    · exact ⟨_, _, if_pos hx, .inr rfl⟩
    · obtain ⟨l, hnumeral, -⟩ := exists_numeral_written x.magnitude
      obtain ⟨c, later, hcons, hdigit⟩ := hnumeral.exists_cons
      exact ⟨c, later, (if_neg hx).trans hcons, .inl hdigit⟩

namespace Token

theorem ofInt?_ne_real (n : Int) (x : Finite) : Number.ofInt? n ≠ some (.real x) := by
  unfold Number.ofInt?
  split
  next => exact fun h => nomatch h
  next => exact fun h => nomatch h

/-- What is read as a double is the one that is nearest to the literal. -/
theorem isNearest_of_numberValue? {negative : Bool} {l : Literal} {x : Finite}
    (hvalue : numberValue? negative l = some (.real x)) :
    Double.IsNearest negative l.value.units (.finite x) := by
  have hreal : l.value.magnitude?.map (fun magnitude => Number.real { negative, magnitude }) =
      some (.real x) := by
    unfold numberValue? at hvalue
    split at hvalue
    next n _ =>
      split at hvalue
      next => exact hvalue
      next =>
        rcases Option.or_eq_some_iff.mp hvalue with hinteger | ⟨-, hreal⟩
        · exact absurd hinteger (ofInt?_ne_real _ x)
        · exact hreal
    next => exact hvalue
  obtain ⟨magnitude, hmagnitude, hx⟩ := Option.map_eq_some_iff.mp hreal
  cases hx
  rw [Double.isNearest_iff, Double.ofDecimal, hmagnitude]

theorem spanNumber?_of_numeral {text rest : List Char} {l : Literal} (htext : Numeral text l)
    (hrest : rest.head?.any carriesOn = false) (negative : Bool) :
    spanNumber? ((if negative then ['-'] else []) ++ text ++ rest) =
      some (.number (numberValue? negative l), rest) := by
  have hspan := htext.span rest hrest
  have hstrict := htext.strict
  cases negative with
  | true =>
    unfold spanNumber?
    simp [hspan, hstrict]
  | false =>
    obtain ⟨c, later, rfl, hdigit⟩ := htext.exists_cons
    have hminus : c ≠ '-' := by
      rintro rfl
      cases hdigit
    unfold spanNumber?
    rw [List.cons_append] at hspan
    simp [hminus, hspan, hstrict]

/-- A written number reads back, up to the first character that does not carry it on. -/
theorem spanNumber?_written (n : Json.Number) {rest : List Char}
    (hrest : rest.head?.any carriesOn = false) :
    spanNumber? (n.written ++ rest) = some (.number (some n), rest) := by
  cases n with
  | integer n hrange =>
    have hspan := spanNumber?_of_numeral (numeral_toDigits n.natAbs) hrest (decide (n < 0))
    have hvalue : numberValue? (decide (n < 0))
        { whole := Nat.toDigits 10 n.natAbs, fraction? := none, exponent? := none } =
          some (.integer n hrange) := by
      have hnatural : Literal.natural?
          { whole := Nat.toDigits 10 n.natAbs, fraction? := none, exponent? := none } =
            some n.natAbs := congrArg some Nat.ofDigitChars_ten_toDigits
      have hzero : (decide (n < 0) && n.natAbs == 0) = false := by
        by_cases hn : n = 0
        · rw [hn]
          rfl
        · rw [beq_eq_false_iff_ne.mpr (by omega), Bool.and_false]
      have hsigned : (if decide (n < 0) then -(n.natAbs : Int) else n.natAbs) = n := by
        by_cases hn : n < 0
        · rw [decide_eq_true hn, if_pos rfl]
          omega
        · rw [decide_eq_false hn, if_neg Bool.false_ne_true]
          omega
      have hinteger : Number.ofInt? n = some (.integer n hrange) := dif_pos hrange
      simp only [numberValue?, hnatural, hzero, hsigned, hinteger]
      rfl
    rw [hvalue] at hspan
    rw [← hspan, Number.written]
    by_cases hn : n < 0
    · simp [hn]
    · simp [hn]
  | real x =>
    obtain ⟨l, hnumeral, hnatural, hread⟩ := exists_numeral_written x.magnitude
    have hspan := spanNumber?_of_numeral hnumeral hrest x.negative
    have hvalue : numberValue? x.negative l = some (.real x) := by
      simp [numberValue?, hnatural, hread]
    rw [hvalue] at hspan
    rw [← hspan, Number.written, Finite.written]
    cases x.negative with
    | false => rfl
    | true => rfl

end Token

end Json

end TriggerCompose
