import TriggerCompose.Preview.Cell
import TriggerCompose.Proofs.Number.Clamp
import TriggerCompose.Proofs.Number.Nearest
import TriggerCompose.Proofs.Number.Spelling
import TriggerCompose.Proofs.Text.Words

/-!
# Numeric keys

A cell that holds a number, or the text of one, gives its whole part as a key. Two readers
stand behind this, one for words and one for doubles, and they disagree about the end of the
range: the largest word is no double. The bound that a double is held against is the largest
word rounded up to `2 ^ 63`, so that one number beyond the words has a key, the largest word.

## Main definitions

* `Preview.Cell.FitsInt64`: the integers of the signed words.
* `Preview.Cell.Reading`: the integer or the double that a number is taken for.
* `Preview.Cell.IsNumeric`, `Preview.Cell.ReadsAs`: the cells that hold numbers, and what these
  are taken for.
* `Preview.Cell.KeyOf`: the key of a reading.

## Main statements

* `Calendar.ofStrict?_text`, `Calendar.ofLenient?_text`: no number text is a timestamp.
* `Magnitude.units_le_iff`: which magnitudes are within the bound.
* `Preview.Cell.keyOf_of_isNumeric`: the key of a number.
-/

namespace TriggerCompose

/-! ### Number texts are no timestamps -/

namespace Calendar

open Number (Spelling)

variable (s : Spelling)

/-- Behind digits at the front of a number text there is no hyphen. -/
theorem spanOneOf?_of_spanNumber?_body {s : Spelling} {least most n : Nat} {rest : List Char}
    (h : spanNumber? least most s.body = some (n, rest)) : spanOneOf? ['-'] rest = none := by
  have hwhole : s.body.takeWhile Char.isDigit = s.whole := congrArg Prod.fst s.spanDigits_body
  rw [spanNumber?, hwhole] at h
  simp only [Option.ite_none_left_eq_some, Option.some.injEq, Prod.mk.injEq] at h
  obtain ⟨-, -, rfl⟩ := h
  have hle : (s.whole.take most).length ≤ s.whole.length := by
    rw [List.length_take]
    omega
  generalize (s.whole.take most).length = taken at hle
  rw [Spelling.body, List.drop_append_of_le_length hle]
  have hhead : ∀ c ∈ (s.whole.drop taken ++ s.fractionText).head?, c ≠ '-' := by
    intro c hc
    cases hdrop : s.whole.drop taken with
    | nil =>
      rw [hdrop, List.nil_append] at hc
      rcases s.head?_fractionText c hc with rfl | rfl | rfl <;> decide
    | cons d later =>
      rw [hdrop] at hc
      obtain rfl : d = c := by simpa using hc
      have hdigit := s.isDigit_of_mem_whole (List.mem_of_mem_drop (hdrop ▸ List.mem_cons_self))
      rintro rfl
      cases hdigit
  cases hrest : s.whole.drop taken ++ s.fractionText with
  | nil => rfl
  | cons c later =>
    have hne := hhead c (by rw [hrest]; rfl)
    simp [spanOneOf?, hne]

theorem spanNumber?_cons {least most : Nat} (hleast : 0 < least) {c : Char} (hc : c.isDigit = false)
    (rest : List Char) : spanNumber? least most (c :: rest) = none := by
  simp [spanNumber?, hc, hleast]

theorem spanOneOf?_of_spanNumber?_text {s : Spelling} {least most n : Nat} {rest : List Char}
    (hleast : 0 < least) (h : spanNumber? least most s.text = some (n, rest)) :
    spanOneOf? ['-'] rest = none := by
  rw [Spelling.text] at h
  cases hsign : s.sign with
  | absent =>
    rw [hsign] at h
    exact spanOneOf?_of_spanNumber?_body h
  | plus =>
    rw [hsign] at h
    simp [Number.Sign.text, spanNumber?_cons hleast] at h
  | minus =>
    rw [hsign] at h
    simp [Number.Sign.text, spanNumber?_cons hleast] at h

theorem ofStrict?_text : ofStrict? s.text = none := by
  have hdate : spanStrictDate? s.text = none := by
    cases hyear : spanNumber? 4 4 s.text with
    | none => simp [spanStrictDate?, hyear]
    | some year =>
      have hhyphen := spanOneOf?_of_spanNumber?_text (by decide) hyear
      simp [spanStrictDate?, hyear, hhyphen]
  simp [ofStrict?, hdate]

theorem spanOneOf?_of_spanLenientYear? {s : Spelling} {year : Int} {rest : List Char}
    (h : spanLenientYear? s.text = some (year, rest)) : spanOneOf? ['-'] rest = none := by
  have hbody : ∀ (most : Nat) (apply : Nat → Int),
      (spanNumber? 1 most s.body).map (fun p => (apply p.1, p.2)) = some (year, rest) →
        spanOneOf? ['-'] rest = none := by
    intro most apply hmap
    obtain ⟨⟨n, later⟩, hspan, heq⟩ := Option.map_eq_some_iff.mp hmap
    cases heq
    exact spanOneOf?_of_spanNumber?_body hspan
  rw [spanLenientYear?, s.isTrimmed_text.trimStart_eq, Spelling.text] at h
  -- Only a sign lets the year have more than four digits.
  cases hsign : s.sign with
  | absent =>
    simp only [hsign, Number.Sign.text, List.nil_append] at h
    split at h
    next hminus => exact absurd (congrArg List.head? hminus) s.unsigned_body.2
    next hplus => exact absurd (congrArg List.head? hplus) s.unsigned_body.1
    next => exact hbody 4 (fun n => n) h
  | plus =>
    rw [hsign] at h
    exact hbody s.body.length (fun n => n) h
  | minus =>
    rw [hsign] at h
    exact hbody s.body.length (fun n => -n) h

theorem ofLenient?_text : ofLenient? s.text = none := by
  have hdate : spanLenientDate? s.text = none := by
    cases hyear : spanLenientYear? s.text with
    | none => simp [spanLenientDate?, hyear]
    | some year =>
      have hhyphen := spanOneOf?_of_spanLenientYear? hyear
      simp [spanLenientDate?, hyear, hhyphen]
  simp [ofLenient?, hdate]

end Calendar

/-! ### The bound on doubles -/

namespace Magnitude

theorem unitsPerOne_eq : unitsPerOne = 2 ^ unitPlaces := by
  rw [unitsPerOne, Nat.shiftLeft_eq, Nat.one_mul]

/-- A magnitude of `2 ^ 53` or more is a whole number. -/
theorem unitsPerOne_dvd_units {m : Magnitude} (h : 2 ^ 53 * unitsPerOne ≤ m.units) :
    unitsPerOne ∣ m.units := by
  rw [unitsPerOne_eq] at h ⊢
  by_cases hlow : m.rank < 2 ^ 53
  · have hone : 0 < 2 ^ unitPlaces := Nat.two_pow_pos _
    have hle : 2 ^ 53 ≤ m.rank := by
      rw [← units_eq_rank hlow]
      exact Nat.le_trans (Nat.le_mul_of_pos_right _ hone) h
    omega
  · have hsignificand := (significand_mem (Nat.le_of_not_lt hlow)).2
    rw [units_eq] at h ⊢
    have hshift : 2 ^ unitPlaces < 2 ^ m.shift := by
      refine Nat.lt_of_mul_lt_mul_left (a := 2 ^ 53) (Nat.lt_of_le_of_lt h ?_)
      exact Nat.mul_lt_mul_of_pos_right hsignificand (Nat.two_pow_pos _)
    have hplaces := (Nat.pow_lt_pow_iff_right (by decide)).mp hshift
    exact Nat.dvd_mul_left_of_dvd (Nat.pow_dvd_pow 2 (Nat.le_of_lt hplaces)) _

/-- A magnitude above `2 ^ 63` is at least one above it. -/
theorem units_le_iff (m : Magnitude) : m.units ≤ unitsPerOne <<< 63 ↔ m.floor ≤ 2 ^ 63 := by
  have hone : 0 < unitsPerOne := by
    rw [unitsPerOne_eq]
    exact Nat.two_pow_pos _
  rw [Nat.shiftLeft_eq, floor]
  constructor
  · exact Nat.div_le_of_le_mul
  · intro hfloor
    refine Nat.le_of_not_lt fun hbeyond => ?_
    have hwhole : unitsPerOne ∣ m.units := by
      refine unitsPerOne_dvd_units (Nat.le_trans ?_ (Nat.le_of_lt hbeyond))
      rw [Nat.mul_comm]
      exact Nat.mul_le_mul_left _ (by decide)
    refine Nat.not_le_of_lt hbeyond ?_
    calc m.units = unitsPerOne * (m.units / unitsPerOne) := (Nat.mul_div_cancel' hwhole).symm
      _ ≤ unitsPerOne * 2 ^ 63 := Nat.mul_le_mul_left _ hfloor

end Magnitude

namespace Preview.Cell

/-- An integer that a signed word holds. -/
def FitsInt64 (n : Int) : Prop :=
  -0x8000000000000000 ≤ n ∧ n < 0x8000000000000000

instance : DecidablePred FitsInt64 := fun _ =>
  inferInstanceAs (Decidable (_ ∧ _))

theorem floor_le_iff (x : Finite) : x.magnitude.floor ≤ 2 ^ 63 ↔
    FitsInt64 x.truncate ∨ x.truncate = 0x8000000000000000 := by
  unfold Finite.truncate FitsInt64
  split <;> omega

theorem keyOfDouble?_of_le {x : Finite}
    (h : FitsInt64 x.truncate ∨ x.truncate = 0x8000000000000000) :
    ∃ k, keyOfDouble? (.finite x) = some k ∧ k.toInt = min x.truncate Int64.maxValue.toInt := by
  refine ⟨Int64.ofIntClamp x.truncate, ?_, ?_⟩
  · have hbound := x.magnitude.units_le_iff.mpr ((floor_le_iff x).mpr h)
    rw [keyOfDouble?, if_pos hbound]
  · unfold FitsInt64 at h
    rw [Number.toInt_ofIntClamp, Int64.toInt_minValue, Int64.toInt_maxValue]
    omega

theorem keyOfDouble?_of_lt {x : Finite}
    (h : ¬ (FitsInt64 x.truncate ∨ x.truncate = 0x8000000000000000)) :
    keyOfDouble? (.finite x) = none := by
  rw [← floor_le_iff, ← x.magnitude.units_le_iff] at h
  rw [keyOfDouble?, if_neg h]

/-! ### Readings -/

/-- What a number is taken for before it becomes a key. -/
inductive Reading where
  | integer (n : Int)
  | double (x : Double)

namespace Reading

/-- The number without its fraction, if it is finite. -/
def truncated? : Reading → Option Int
  | integer n => some n
  | double (.finite x) => some x.truncate
  | double _ => none

/-- A number written as an integer that fits a signed word is taken as it is, and every other
one for the double nearest to its value, which is given by its sign and its size in units. -/
inductive Of (integer? : Option Int) (negative : Bool) (units : ℚ) : Reading → Prop
  | word {n : Int} (h : integer? = some n) (hfits : FitsInt64 n) :
    Of integer? negative units (integer n)
  | nearest {x : Double} (h : ∀ n, integer? = some n → ¬ FitsInt64 n)
    (hnearest : Double.IsNearest negative units x) : Of integer? negative units (double x)

end Reading

/-- The cells that hold numbers: numbers of the format, and texts that are number texts between
blank characters. -/
inductive IsNumeric : Json → Prop
  | number (n : Json.Number) : IsNumeric (.number n)
  | text {s : String} {spelling : Number.Spelling} (htrim : Text.trim s.toList = spelling.text) :
    IsNumeric (.string s)

/-- What the number in a cell is taken for. -/
inductive ReadsAs : Json → Reading → Prop
  | integer {n inRange x} (h : x.Of (some n) (n < 0) (Decimal.units ⟨n.natAbs, 0⟩)) :
    ReadsAs (.number (.integer n inRange)) x
  | real (x : Finite) : ReadsAs (.number (.real x)) (.double (.finite x))
  | text {s : String} {spelling : Number.Spelling} {x : Reading}
    (htrim : Text.trim s.toList = spelling.text)
    (h : x.Of spelling.integer? spelling.sign.isNegative spelling.literal.value.units) :
    ReadsAs (.string s) x

/-- The key of a reading. Where its whole part is a signed word, the key is that word, and where
it is not there is no key, but for the one number `2 ^ 63`. -/
structure KeyOf (x : Reading) (key? : Option Int64) : Prop where
  kept : ∀ t, x.truncated? = some t → FitsInt64 t → ∃ k, key? = some k ∧ k.toInt = t
  dropped : (∀ t, x.truncated? = some t → ¬ FitsInt64 t ∧ t ≠ 0x8000000000000000) →
    key? = none
  clamped : x.truncated? = some 0x8000000000000000 → key? = some Int64.maxValue

theorem keyOf_of_truncated?_none {x : Reading} (h : x.truncated? = none) : KeyOf x none where
  kept := by
    intro t ht
    rw [h] at ht
    cases ht
  dropped _ := rfl
  clamped := by
    intro ht
    rw [h] at ht
    cases ht

theorem keyOf_finite (x : Finite) : KeyOf (.double (.finite x)) (keyOfDouble? (.finite x)) where
  kept := by
    intro t ht hfits
    obtain rfl : x.truncate = t := Option.some.inj ht
    obtain ⟨k, hkey, hk⟩ := keyOfDouble?_of_le (.inl hfits)
    refine ⟨k, hkey, ?_⟩
    rw [hk, Int64.toInt_maxValue]
    unfold FitsInt64 at hfits
    omega
  dropped := by
    intro h
    obtain ⟨hfits, hne⟩ := h x.truncate rfl
    exact keyOfDouble?_of_lt (not_or.mpr ⟨hfits, hne⟩)
  clamped := by
    intro ht
    have htruncate : x.truncate = 0x8000000000000000 := Option.some.inj ht
    obtain ⟨k, hkey, hk⟩ := keyOfDouble?_of_le (.inr htruncate)
    have hmax : k.toInt = Int64.maxValue.toInt := by
      rw [hk, htruncate]
      rfl
    rw [hkey, Int64.toInt_inj.mp hmax]

theorem keyOf_double (x : Double) : KeyOf (.double x) (keyOfDouble? x) := by
  cases x with
  | finite x => exact keyOf_finite x
  | nan => exact keyOf_of_truncated?_none rfl
  | infinite negative => exact keyOf_of_truncated?_none rfl

theorem keyOf_integer {n : Int} (hfits : FitsInt64 n) :
    KeyOf (.integer n) (some (Int64.ofInt n)) where
  kept := by
    intro t ht _
    obtain rfl : n = t := Option.some.inj ht
    exact ⟨_, rfl, Int64.toInt_ofInt_of_le hfits.1 hfits.2⟩
  dropped := by
    intro h
    exact absurd hfits (h n rfl).1
  clamped := by
    intro ht
    obtain rfl : n = 0x8000000000000000 := Option.some.inj ht
    exact absurd hfits.2 (by decide)

/-- The word of an integer that fits. -/
def wordOf? (n : Int) : Option Int64 :=
  if FitsInt64 n then some (Int64.ofInt n) else none

theorem wordOf?_of_fits {n : Int} (hfits : FitsInt64 n) : wordOf? n = some (Int64.ofInt n) :=
  if_pos hfits

theorem wordOf?_of_not_fits {n : Int} (hfits : ¬ FitsInt64 n) : wordOf? n = none :=
  if_neg hfits

namespace Reading

variable {integer? : Option Int} {negative : Bool} {d : Decimal}

theorem exists_of (integer? : Option Int) (negative : Bool) (d : Decimal) :
    ∃ x : Reading, x.Of integer? negative d.units := by
  have hnearest := Double.isNearest_ofDecimal negative d
  cases integer? with
  | none => exact ⟨_, .nearest (by simp) hnearest⟩
  | some n =>
    by_cases hfits : FitsInt64 n
    · exact ⟨_, .word rfl hfits⟩
    · refine ⟨_, .nearest ?_ hnearest⟩
      rintro _ ⟨⟩
      exact hfits

/-- The reader for words comes before the reader for doubles. -/
theorem Of.keyOf {x : Reading} (h : x.Of integer? negative d.units) :
    KeyOf x ((integer?.bind wordOf?).or (keyOfDouble? (.ofDecimal negative d))) := by
  cases h with
  | word h hfits =>
    rw [h, Option.bind_some, wordOf?_of_fits hfits]
    exact keyOf_integer hfits
  | nearest h hnearest =>
    have hword : integer?.bind wordOf? = none := by
      rw [Option.bind_eq_none_iff]
      intro n hn
      exact wordOf?_of_not_fits (h n hn)
    rw [hword, Option.none_or, ← Double.isNearest_iff.mp hnearest]
    exact keyOf_double _

end Reading

theorem int64?_integer (n : Int) (inRange : -0x8000000000000000 ≤ n ∧ n < 0x10000000000000000) :
    (Json.Number.integer n inRange).int64? = wordOf? n := by
  have hfits : FitsInt64 n ↔ n < 0x8000000000000000 := by
    rw [FitsInt64]
    omega
  simp only [Json.Number.int64?, wordOf?, hfits]

theorem signed?_text (spelling : Number.Spelling) :
    Number.signed? spelling.text = spelling.integer?.bind wordOf? := by
  rw [Number.signed?, spelling.integer?_text]
  congr 1
  funext n
  have hfits : FitsInt64 n ↔ Int64.minValue.toInt ≤ n ∧ n ≤ Int64.maxValue.toInt := by
    rw [FitsInt64, Int64.toInt_minValue, Int64.toInt_maxValue]
    omega
  simp only [wordOf?, hfits]

theorem key?_text {s : String} {spelling : Number.Spelling}
    (htrim : Text.trim s.toList = spelling.text) :
    key? (.string s) = (spelling.integer?.bind wordOf?).or (keyOfDouble? spelling.nearest) := by
  rw [← signed?_text]
  simp [key?, htrim, keyOfText?, spelling.ofText?_text, Calendar.ofStrict?_text,
    Calendar.ofLenient?_text]

theorem IsNumeric.exists_readsAs {cell : Json} (h : IsNumeric cell) : ∃ x, ReadsAs cell x := by
  cases h with
  | number n =>
    cases n with
    | integer n inRange =>
      obtain ⟨x, hx⟩ := Reading.exists_of (some n) (n < 0) ⟨n.natAbs, 0⟩
      exact ⟨x, .integer hx⟩
    | real x => exact ⟨_, .real x⟩
  | @text s spelling htrim =>
    obtain ⟨x, hx⟩ := Reading.exists_of spelling.integer? spelling.sign.isNegative
      spelling.literal.value
    exact ⟨x, .text htrim hx⟩

theorem ReadsAs.keyOf {cell : Json} {x : Reading} (h : ReadsAs cell x) : KeyOf x (key? cell) := by
  cases h with
  | @integer n inRange _ h =>
    rw [key?, int64?_integer]
    exact h.keyOf
  | real x => exact keyOf_finite x
  | text htrim h =>
    rw [key?_text htrim]
    exact h.keyOf

/-- Every number has a reading, and the key of its cell is the key of the reading. -/
theorem keyOf_of_isNumeric {cell : Json} (h : IsNumeric cell) :
    (∃ x, ReadsAs cell x) ∧ ∀ x, ReadsAs cell x → KeyOf x (key? cell) :=
  ⟨h.exists_readsAs, fun _ => ReadsAs.keyOf⟩

theorem keyOf_of_isNumeric_fraction :
    IsNumeric (.string " 1.9 ") ∧ (∃ x, ReadsAs (.string " 1.9 ") x) ∧
      key? (.string " 1.9 ") = some 1 ∧
        ∀ x, ReadsAs (.string " 1.9 ") x → KeyOf x (key? (.string " 1.9 ")) := by
  let spelling : Number.Spelling :=
    { sign := .absent, whole := ['1'], fraction? := some ['9'], exponent? := none
      isDigit := List.all_eq_true.mp (by decide), ne_nil := by decide }
  have hnumeric : IsNumeric (.string " 1.9 ") := @IsNumeric.text " 1.9 " spelling (by decide)
  obtain ⟨hreads, hkey⟩ := keyOf_of_isNumeric hnumeric
  exact ⟨hnumeric, hreads, by decide +kernel, hkey⟩

/-- The least number beyond the words is clamped into their range. -/
theorem key?_beyond_words :
    (∃ x, ReadsAs (.number (.integer 0x8000000000000000 (by decide))) x ∧
      x.truncated? = some 0x8000000000000000) ∧
    key? (.number (.integer 0x8000000000000000 (by decide))) = some Int64.maxValue := by
  have hfits : ∀ n, some 0x8000000000000000 = some n → ¬ FitsInt64 n := by
    rintro _ ⟨⟩
    decide
  refine ⟨⟨_, .integer (.nearest hfits (Double.isNearest_ofDecimal _ _)), ?_⟩, ?_⟩
  · decide +kernel
  · decide +kernel

end Preview.Cell

end TriggerCompose
