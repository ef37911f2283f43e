import TriggerCompose.Proofs.Number.Clamp
import TriggerCompose.Proofs.Number.Display
import TriggerCompose.Proofs.Text.Spans
import TriggerCompose.Proofs.Text.Words
import TriggerCompose.Settings.Duration

/-!
# Texts of durations

A duration is read from a number and the letter of a unit, and shown as a number of the
largest unit that divides it. What is shown is a duration text again, and the duration that
it denotes is the one that was shown.

## Main definitions

* `Duration.units`: the letters of the units with their lengths.
* `Duration.IsSpelling`: a number followed by the letter of a unit.
* `Duration.Denotes`: what a text spells, if it fits.
* `Duration.IsDisplay`: the text that is shown for a number of seconds.

## Main statements

* `Duration.parse_eq_ok_iff`: which texts are durations, and of how many seconds.
* `Duration.isDisplay_displayChars`: what a duration is shown as.
* `Duration.parse_display`: a displayed duration reads back.
-/

namespace TriggerCompose.Duration

/-! ### Units -/

/-- The letters of the units with their lengths in seconds. -/
def units : List (Char × Nat) :=
  [('s', 1), ('m', 60), ('h', 3600), ('d', 86400)]

theorem mem_units_iff {letter : Char} {length : Nat} :
    (letter, length) ∈ units ↔ ∃ unit : Unit, unit.letter = letter ∧ unit.seconds = length := by
  constructor
  · intro hmem
    simp only [units, List.mem_cons, Prod.mk.injEq, List.not_mem_nil, or_false] at hmem
    rcases hmem with ⟨rfl, rfl⟩ | ⟨rfl, rfl⟩ | ⟨rfl, rfl⟩ | ⟨rfl, rfl⟩
    · exact ⟨.second, rfl, rfl⟩
    · exact ⟨.minute, rfl, rfl⟩
    · exact ⟨.hour, rfl, rfl⟩
    · exact ⟨.day, rfl, rfl⟩
  · rintro ⟨unit, rfl, rfl⟩
    cases unit <;> decide

theorem Unit.ofText?_eq_some_iff {text : List Char} {unit : Unit} :
    ofText? text = some unit ↔ text = [unit.letter] := by
  constructor
  · intro hfind
    simpa using List.find?_some hfind
  · rintro rfl
    cases unit <;> rfl

theorem Unit.isDigit_letter (unit : Unit) : unit.letter.isDigit = false := by
  cases unit <;> rfl

theorem Unit.isBlank_letter (unit : Unit) : Text.isBlank unit.letter = false := by
  cases unit <;> rfl

theorem Unit.seconds_pos (unit : Unit) : 0 < unit.seconds := by
  cases unit <;> decide

/-- The unit of the display divides the seconds, and no larger unit does. -/
theorem displayUnit_spec (seconds : Nat) :
    (displayUnit seconds).seconds ∣ seconds ∧
      ∀ unit : Unit, unit.seconds ∣ seconds → unit.seconds ≤ (displayUnit seconds).seconds := by
  have hsecond : ∃ unit ∈ Unit.all, decide (seconds % unit.seconds = 0) :=
    ⟨.second, by decide, by simp [Unit.seconds, Nat.mod_one]⟩
  obtain ⟨first, hfind⟩ := Option.isSome_iff_exists.mp (List.find?_isSome.mpr hsecond)
  have hunit : displayUnit seconds = first := by
    rw [displayUnit, hfind, Option.getD_some]
  obtain ⟨hdivides, larger, smaller, hsplit, hlarger⟩ := List.find?_eq_some_iff_append.mp hfind
  rw [hunit]
  refine ⟨Nat.dvd_of_mod_eq_zero (by simpa using hdivides), fun unit hmod => ?_⟩
  have hdescending : (larger ++ first :: smaller).Pairwise fun a b => b.seconds ≤ a.seconds :=
    hsplit ▸ by decide
  have hmem : unit ∈ larger ++ first :: smaller := hsplit ▸ by cases unit <;> decide
  rcases List.mem_append.mp hmem with hearlier | hlater
  · -- A larger unit that divides would have been found.
    have hnot := hlarger unit hearlier
    simp [Nat.mod_eq_zero_of_dvd hmod] at hnot
  · rcases List.mem_cons.mp hlater with rfl | hlater
    · exact Nat.le_refl _
    · exact (List.pairwise_cons.mp (List.pairwise_append.mp hdescending).2.1).1 unit hlater

/-! ### Reading -/

/-- A number in decimal digits, followed by the letter of a unit of the given length. -/
structure IsSpelling (text digits : List Char) (letter : Char) (length : Nat) : Prop where
  text_eq : text = digits ++ [letter]
  ne_nil : digits ≠ []
  digits : ∀ c ∈ digits, c.isDigit
  unit : (letter, length) ∈ units

/-- Trimmed, the text spells a number of units; the number and the seconds both fit a word. -/
def Denotes (text : String) (seconds : Nat) : Prop :=
  ∃ digits letter length, IsSpelling (Text.trim text.toList) digits letter length ∧
    Nat.ofDigitChars 10 digits 0 < UInt64.size ∧
    Nat.ofDigitChars 10 digits 0 * length < UInt64.size ∧
    seconds = Nat.ofDigitChars 10 digits 0 * length

theorem parseTrimmed_of_isSpelling {text digits : List Char} {letter : Char} {length : Nat}
    (h : IsSpelling text digits letter length)
    (hnumber : Nat.ofDigitChars 10 digits 0 < UInt64.size)
    (hfits : Nat.ofDigitChars 10 digits 0 * length < UInt64.size) :
    parseTrimmed text = .ok ⟨UInt64.ofNat (Nat.ofDigitChars 10 digits 0 * length)⟩ := by
  obtain ⟨rfl, hne, hdigits, hunit⟩ := h
  obtain ⟨unit, rfl, rfl⟩ := mem_units_iff.mp hunit
  have hletter : [unit.letter].head?.any Char.isDigit = false := unit.isDigit_letter
  obtain ⟨htake, hdrop⟩ := Text.span_append hdigits hletter
  simp only [parseTrimmed, htake, hdrop, List.isEmpty_cons, Bool.false_eq_true, if_false,
    List.isEmpty_iff, hne, Unit.ofText?_eq_some_iff.mpr rfl, if_neg (Nat.not_le.mpr hnumber),
    if_neg (Nat.not_le.mpr hfits)]

theorem exists_isSpelling_of_parseTrimmed {text : List Char} {d : Duration}
    (h : parseTrimmed text = .ok d) :
    ∃ digits letter length, IsSpelling text digits letter length ∧
      Nat.ofDigitChars 10 digits 0 < UInt64.size ∧
      Nat.ofDigitChars 10 digits 0 * length < UInt64.size ∧
      d.seconds.toNat = Nat.ofDigitChars 10 digits 0 * length := by
  have htext : text = text.takeWhile Char.isDigit ++ text.dropWhile Char.isDigit :=
    List.takeWhile_append_dropWhile.symm
  simp only [parseTrimmed] at h
  -- Every fault leaves at once, so what is left after all tests is the duration.
  split at h
  · cases h
  split at h
  · cases h
  rename_i hne
  split at h
  · cases h
  rename_i hnumber
  split at h
  · cases h
  rename_i unit hunit
  split at h
  · cases h
  rename_i hfits
  cases h
  rw [Unit.ofText?_eq_some_iff.mp hunit] at htext
  have hspelling : IsSpelling text (text.takeWhile Char.isDigit) unit.letter unit.seconds :=
    { text_eq := htext
      ne_nil := by simpa using hne
      digits := fun _ hc => List.all_eq_true.mp List.all_takeWhile _ hc
      unit := mem_units_iff.mpr ⟨unit, rfl, rfl⟩ }
  exact ⟨_, unit.letter, unit.seconds, hspelling, Nat.not_le.mp hnumber, Nat.not_le.mp hfits,
    UInt64.toNat_ofNat_of_lt' (Nat.not_le.mp hfits)⟩

/-- A text is a duration of the product of its number and its unit, if both fit a word. -/
theorem parse_eq_ok_iff {text : String} {d : Duration} :
    parse text = .ok d ↔ Denotes text d.seconds.toNat := by
  constructor
  · exact exists_isSpelling_of_parseTrimmed
  · rintro ⟨digits, letter, length, hspelling, hnumber, hfits, hseconds⟩
    rw [parse, parseTrimmed_of_isSpelling hspelling hnumber hfits, ← hseconds, UInt64.ofNat_toNat]

theorem exists_parse_iff {text : String} :
    (∃ d, parse text = .ok d) ↔ ∃ seconds, Denotes text seconds := by
  constructor
  · rintro ⟨d, hd⟩
    exact ⟨_, parse_eq_ok_iff.mp hd⟩
  · rintro ⟨_, digits, letter, length, hspelling, hnumber, hfits, -⟩
    exact ⟨_, parseTrimmed_of_isSpelling hspelling hnumber hfits⟩

/-! ### Showing -/

/-- The text that is shown for a number of seconds. -/
structure IsDisplay (seconds : Nat) (text : List Char) : Prop where
  zero : seconds = 0 → text = ['0', 's']
  /-- The number has no leading zero, and no larger unit divides the seconds. -/
  positive : seconds ≠ 0 → ∃ digits letter length, IsSpelling text digits letter length ∧
    digits.head? ≠ some '0' ∧ Nat.ofDigitChars 10 digits 0 * length = seconds ∧
    ∀ larger ∈ units, larger.2 ∣ seconds → larger.2 ≤ length

theorem isSpelling_toDigits (n : Nat) (unit : Unit) :
    IsSpelling (Nat.toDigits 10 n ++ [unit.letter]) (Nat.toDigits 10 n) unit.letter
      unit.seconds where
  text_eq := rfl
  ne_nil := Nat.toDigits_ne_nil
  digits _ hc := Nat.isDigit_of_mem_toDigits (by decide) (by decide) hc
  unit := mem_units_iff.mpr ⟨unit, rfl, rfl⟩

theorem isDisplay_displayChars (d : Duration) : IsDisplay d.seconds.toNat d.displayChars where
  zero hzero := by
    have hseconds : d.seconds = 0 := UInt64.toNat_inj.mp hzero
    rw [displayChars, if_pos hseconds]
  positive hpositive := by
    have hseconds : ¬ d.seconds = 0 := fun hzero => hpositive (by rw [hzero]; rfl)
    obtain ⟨hdivides, hlargest⟩ := displayUnit_spec d.seconds.toNat
    have hquotient : d.seconds.toNat / (displayUnit d.seconds.toNat).seconds ≠ 0 := by
      have hle := Nat.le_of_dvd (Nat.pos_of_ne_zero hpositive) hdivides
      exact Nat.ne_of_gt (Nat.div_pos hle (Unit.seconds_pos _))
    refine ⟨Nat.toDigits 10 (d.seconds.toNat / (displayUnit d.seconds.toNat).seconds),
      (displayUnit d.seconds.toNat).letter, (displayUnit d.seconds.toNat).seconds, ?_,
      Decimal.head?_toDigits hquotient, ?_, ?_⟩
    · rw [displayChars, if_neg hseconds]
      exact isSpelling_toDigits _ _
    · rw [Nat.ofDigitChars_ten_toDigits, Nat.div_mul_cancel hdivides]
    · rintro ⟨letter, length⟩ hlarger hlength
      obtain ⟨unit, -, rfl⟩ := mem_units_iff.mp hlarger
      exact hlargest unit hlength

/-- A duration is shown as a spelling of its seconds, also when there are none. -/
theorem exists_isSpelling_displayChars (d : Duration) : ∃ digits letter length,
    IsSpelling d.displayChars digits letter length ∧
      Nat.ofDigitChars 10 digits 0 * length = d.seconds.toNat := by
  by_cases hzero : d.seconds.toNat = 0
  · have hspelling : IsSpelling d.displayChars ['0'] 's' 1 :=
      { text_eq := (isDisplay_displayChars d).zero hzero
        ne_nil := by decide
        digits := by simp
        unit := by decide }
    exact ⟨['0'], 's', 1, hspelling, hzero.symm⟩
  · obtain ⟨digits, letter, length, hspelling, -, hvalue, -⟩ :=
      (isDisplay_displayChars d).positive hzero
    exact ⟨digits, letter, length, hspelling, hvalue⟩

theorem IsSpelling.isBlank_eq_false {text digits : List Char} {letter : Char} {length : Nat}
    (h : IsSpelling text digits letter length) {c : Char} (hc : c ∈ text) :
    Text.isBlank c = false := by
  obtain ⟨unit, rfl, -⟩ := mem_units_iff.mp h.unit
  rw [h.text_eq, List.mem_append, List.mem_singleton] at hc
  rcases hc with hdigit | rfl
  · exact Text.isBlank_of_isDigit (h.digits c hdigit)
  · exact unit.isBlank_letter

theorem toList_display (d : Duration) : d.display.toList = d.displayChars :=
  String.toList_ofList

/-- A displayed duration reads back. -/
theorem parse_display (d : Duration) : parse d.display = .ok d := by
  obtain ⟨digits, letter, length, hspelling, hvalue⟩ := exists_isSpelling_displayChars d
  have hfits : Nat.ofDigitChars 10 digits 0 * length < UInt64.size := hvalue ▸ d.seconds.toNat_lt
  -- The number fits as well, because a unit is at least a second.
  have hnumber : Nat.ofDigitChars 10 digits 0 < UInt64.size := by
    obtain ⟨unit, -, rfl⟩ := mem_units_iff.mp hspelling.unit
    exact Nat.lt_of_le_of_lt (Nat.le_mul_of_pos_right _ unit.seconds_pos) hfits
  have htrim : Text.trim d.display.toList = d.displayChars := by
    rw [toList_display]
    exact (Text.IsTrimmed.of_forall fun _ hc => hspelling.isBlank_eq_false hc).trim_eq
  exact parse_eq_ok_iff.mpr
    ⟨digits, letter, length, htrim ▸ hspelling, hnumber, hfits, hvalue.symm⟩

theorem display_injective {d other : Duration} (h : other.display = d.display) : other = d := by
  have hread := parse_display other
  rw [h, parse_display] at hread
  exact (Except.ok.inj hread).symm

theorem toInt_milliseconds (d : Duration) :
    d.milliseconds.toInt = min (1000 * (d.seconds.toNat : Int)) 9223372036854775807 := by
  have hmin := Int64.toInt_minValue
  have hmax := Int64.toInt_maxValue
  rw [milliseconds, Number.toInt_ofIntClamp]
  omega

end TriggerCompose.Duration
