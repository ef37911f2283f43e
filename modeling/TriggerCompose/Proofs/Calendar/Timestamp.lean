import TriggerCompose.Calendar.Timestamp
import TriggerCompose.Proofs.Calendar.DayNumber
import TriggerCompose.Proofs.Text.Spans
import TriggerCompose.Proofs.Text.Words
import Mathlib.Data.Nat.Digits.Defs
import Mathlib.Data.Rat.Floor

/-!
# Written timestamps

A timestamp is written field by field, each number in a fixed number of digits. The strict reader
reads the timestamps with an offset from universal time and no others, and the lenient one reads
those without and the bare dates. Both find the date and the clock that were written, and of the
fraction of the second they keep its whole milliseconds.

## Main definitions

* `Calendar.padded`: a number in a fixed number of digits.
* `Calendar.Moment`: a date and a clock time with any fraction of the second.
* `Calendar.Offset`, `Calendar.Form`: the forms in which a moment is written.

## Main statements

* `Calendar.floor_fractionValue`: the milliseconds of a fraction.
* `Calendar.timestamp?_text`: every form of a moment is read.
* `Calendar.timestamp?_date`: a bare date is read as its midnight.
-/

namespace TriggerCompose.Calendar

/-! ### Fields -/

/-- A number in a number of digits, with zeros in front of it. -/
def padded (width n : Nat) : List Char :=
  List.replicate (width - (Nat.toDigits 10 n).length) '0' ++ Nat.toDigits 10 n

theorem isDigit_of_mem_padded {width n : Nat} {c : Char} (hc : c ∈ padded width n) : c.isDigit := by
  rcases List.mem_append.mp hc with hzero | hdigit
  · rw [List.eq_of_mem_replicate hzero]
    decide
  · exact Nat.isDigit_of_mem_toDigits (by decide) (by decide) hdigit

theorem ofDigitChars_padded (width n : Nat) : Nat.ofDigitChars 10 (padded width n) 0 = n := by
  rw [padded, Nat.ofDigitChars_append, Nat.ofDigitChars_replicate_zero, Nat.mul_zero,
    Nat.ofDigitChars_ten_toDigits]

theorem length_padded {width n : Nat} (hwidth : 0 < width) (hn : n < 10 ^ width) :
    (padded width n).length = width := by
  have hle := (Nat.length_toDigits_le_iff (by decide) hwidth).mpr hn
  rw [padded, List.length_append, List.length_replicate]
  omega

theorem exists_padded_cons (width n : Nat) :
    ∃ c later, padded width n = c :: later ∧ c.isDigit := by
  obtain ⟨c, later, htext⟩ := List.exists_cons_of_ne_nil
    (List.append_ne_nil_of_right_ne_nil _ Nat.toDigits_ne_nil : padded width n ≠ [])
  exact ⟨c, later, htext, isDigit_of_mem_padded (htext ▸ List.mem_cons_self)⟩

/-- A field that takes up all the digits that a reader allows ends without a boundary. -/
theorem spanNumber?_padded {least most n : Nat} {rest : List Char} (hleast : least ≤ most)
    (hmost : 0 < most) (hn : n < 10 ^ most) :
    spanNumber? least most (padded most n ++ rest) = some (n, rest) := by
  have hlength := length_padded hmost hn
  have hdigits : ((padded most n ++ rest).takeWhile Char.isDigit).take most = padded most n := by
    rw [List.takeWhile_append_of_pos fun c hc => isDigit_of_mem_padded hc, List.take_left' hlength]
  rw [spanNumber?, hdigits, hlength, if_neg (Nat.not_lt.mpr hleast), ofDigitChars_padded,
    List.drop_left' hlength]

theorem spanNumber?_padded_two {n : Nat} {rest : List Char} (hn : n < 100) :
    spanNumber? 2 2 (padded 2 n ++ rest) = some (n, rest) :=
  spanNumber?_padded (Nat.le_refl 2) (by decide) hn

theorem trimStart_padded (width n : Nat) (rest : List Char) :
    Text.trimStart (padded width n ++ rest) = padded width n ++ rest := by
  obtain ⟨c, later, htext, hdigit⟩ := exists_padded_cons width n
  rw [htext, List.cons_append]
  exact List.dropWhile_cons_of_neg (by simp [Text.isBlank_of_isDigit hdigit])

theorem spanLenientNumber?_padded {n : Nat} {rest : List Char} (hn : n < 100) :
    spanLenientNumber? (padded 2 n ++ rest) = some (n, rest) := by
  rw [spanLenientNumber?, trimStart_padded]
  exact spanNumber?_padded (by decide) (by decide) hn

theorem spanLenientYear?_padded {n : Nat} {rest : List Char} (hn : n < 10000) :
    spanLenientYear? (padded 4 n ++ rest) = some ((n : Int), rest) := by
  obtain ⟨c, later, htext, hdigit⟩ := exists_padded_cons 4 n
  have hspan := @spanNumber?_padded 1 4 n rest (by decide) (by decide) hn
  rw [spanLenientYear?, trimStart_padded]
  split
  next hminus =>
    rw [htext] at hminus
    obtain ⟨rfl, -⟩ := List.cons.inj hminus
    cases hdigit
  next hplus =>
    rw [htext] at hplus
    obtain ⟨rfl, -⟩ := List.cons.inj hplus
    cases hdigit
  next => rw [hspan, Option.map_some]

theorem isTrimmed_padded (width n : Nat) : Text.IsTrimmed (padded width n) :=
  .of_forall fun _ hc => Text.isBlank_of_isDigit (isDigit_of_mem_padded hc)

/-! ### Dates -/

namespace Date

/-- A date that is written with four digits of the year and no sign. -/
structure IsWritable (d : Date) : Prop extends d.IsValid where
  year_nonneg : 0 ≤ d.year
  year_lt : d.year < 10000

/-- A date as year, month and day. -/
def text (d : Date) : List Char :=
  padded 4 d.year.toNat ++ '-' :: (padded 2 d.month ++ '-' :: padded 2 d.day)

theorem isTrimmed_text (d : Date) : Text.IsTrimmed d.text := by
  refine .append (isTrimmed_padded _ _) (.cons (by decide) ?_)
  exact .append (isTrimmed_padded _ _) (.cons (by decide) (isTrimmed_padded _ _))

namespace IsWritable

variable {d : Date} (h : d.IsWritable)

include h

theorem ofParts?_eq : ofParts? d.year d.month d.day = some d := by
  refine if_pos ⟨?_, ?_, h.one_le_day, h.day_le⟩
  · exact Int.le_trans (by decide) h.year_nonneg
  · exact Int.le_trans (Int.le_of_lt h.year_lt) (by decide)

/-- The bounds of the fields, by which each has as many digits as it is written with. -/
theorem fields_lt : d.year.toNat < 10000 ∧ d.month < 100 ∧ d.day < 100 := by
  have hyear := h.year_lt
  have hmonth := h.month_mem
  have hday : daysInMonth d.year d.month ≤ 31 := daysInMonth_le d.year d.month
  have hle := h.day_le
  omega

theorem spanStrictDate?_text (rest : List Char) :
    spanStrictDate? (d.text ++ rest) = some (d, rest) := by
  obtain ⟨hyear, hmonth, hday⟩ := h.fields_lt
  simp [spanStrictDate?, text, spanOneOf?, max_eq_left h.year_nonneg, h.ofParts?_eq,
    spanNumber?_padded (Nat.le_refl 4) (by decide) hyear, spanNumber?_padded_two hmonth,
    spanNumber?_padded_two hday]

theorem spanLenientDate?_text (rest : List Char) :
    spanLenientDate? (d.text ++ rest) = some (d, rest) := by
  obtain ⟨hyear, hmonth, hday⟩ := h.fields_lt
  simp [spanLenientDate?, text, spanOneOf?, max_eq_left h.year_nonneg, h.ofParts?_eq,
    spanLenientYear?_padded hyear, spanLenientNumber?_padded hmonth,
    spanLenientNumber?_padded hday]

end IsWritable

end Date

/-! ### Fractions of a second -/

/-- The value of the digits behind a point. -/
def fractionValue (digits : List Char) : ℚ :=
  Nat.ofDigitChars 10 digits 0 / 10 ^ digits.length

theorem ofDigitChars_lt {digits : List Char} (hdigits : ∀ c ∈ digits, c.isDigit) :
    Nat.ofDigitChars 10 digits 0 < 10 ^ digits.length := by
  induction digits with
  | nil => exact Nat.one_pos
  | cons c digits ih =>
    have hc : c.toNat - '0'.toNat ≤ 9 := by
      have hdigit := Char.isDigit_iff_toNat.mp (hdigits c List.mem_cons_self)
      simp only [Char.reduceToNat] at hdigit ⊢
      omega
    have hrest := ih fun d hd => hdigits d (List.mem_cons_of_mem c hd)
    have hfirst : 10 ^ digits.length * (c.toNat - '0'.toNat) ≤ 10 ^ digits.length * 9 :=
      Nat.mul_le_mul_left _ hc
    rw [Nat.ofDigitChars_cons, Nat.mul_zero, Nat.zero_add, Nat.ofDigitChars_eq_ofDigitChars_zero,
      List.length_cons, Nat.pow_succ]
    omega

theorem ofDigitChars_append_div (front : List Char) {back : List Char}
    (hback : ∀ c ∈ back, c.isDigit) :
    Nat.ofDigitChars 10 (front ++ back) 0 / 10 ^ back.length = Nat.ofDigitChars 10 front 0 := by
  rw [Nat.ofDigitChars_append, Nat.ofDigitChars_eq_ofDigitChars_zero,
    Nat.mul_add_div (Nat.pow_pos (by decide)), Nat.div_eq_of_lt (ofDigitChars_lt hback),
    Nat.add_zero]

/-- Three digits behind the point are whole milliseconds, and the digits after them are less than
    one millisecond. -/
theorem fractionMilliseconds_eq_div {digits : List Char} (hdigits : ∀ c ∈ digits, c.isDigit) :
    fractionMilliseconds digits = 1000 * Nat.ofDigitChars 10 digits 0 / 10 ^ digits.length := by
  cases digits with
  | nil => rfl
  | cons c later =>
    let filled := c :: later ++ ['0', '0']
    have hvalue : Nat.ofDigitChars 10 filled 0 = 100 * Nat.ofDigitChars 10 (c :: later) 0 := by
      have hzeros : filled = c :: later ++ List.replicate 2 '0' := rfl
      rw [hzeros, Nat.ofDigitChars_append, Nat.ofDigitChars_replicate_zero]
    have hlength : (filled.drop 3).length = later.length := by simp [filled]
    have hrest : ∀ d ∈ filled.drop 3, d.isDigit := by
      intro d hd
      rcases List.mem_append.mp (List.mem_of_mem_drop hd) with hdigit | hzero
      · exact hdigits d hdigit
      · rw [List.eq_of_mem_replicate (n := 2) hzero]
        decide
    calc fractionMilliseconds (c :: later)
        = Nat.ofDigitChars 10 (filled.take 3 ++ filled.drop 3) 0 / 10 ^ (filled.drop 3).length :=
          (ofDigitChars_append_div _ hrest).symm
      _ = 100 * Nat.ofDigitChars 10 (c :: later) 0 / 10 ^ later.length := by
          rw [List.take_append_drop, hvalue, hlength]
      _ = 10 * (100 * Nat.ofDigitChars 10 (c :: later) 0) / (10 * 10 ^ later.length) :=
          (Nat.mul_div_mul_left _ _ (by decide)).symm
      _ = 1000 * Nat.ofDigitChars 10 (c :: later) 0 / 10 ^ (c :: later).length := by
          rw [← Nat.mul_assoc, List.length_cons, Nat.pow_succ, Nat.mul_comm (10 ^ later.length)]

theorem fractionMilliseconds_lt {digits : List Char} (hdigits : ∀ c ∈ digits, c.isDigit) :
    fractionMilliseconds digits < 1000 := by
  rw [fractionMilliseconds_eq_div hdigits]
  refine Nat.div_lt_of_lt_mul ?_
  rw [Nat.mul_comm]
  exact Nat.mul_lt_mul_of_pos_right (ofDigitChars_lt hdigits) (by decide)

/-- The milliseconds of a fraction are what is left of it when it is rounded down. -/
theorem floor_fractionValue {digits : List Char} (hdigits : ∀ c ∈ digits, c.isDigit) :
    ⌊1000 * fractionValue digits⌋ = (fractionMilliseconds digits : ℤ) := by
  have hquotient : 1000 * fractionValue digits =
      ((1000 * Nat.ofDigitChars 10 digits 0 : Nat) : ℚ) / ((10 ^ digits.length : Nat) : ℚ) := by
    rw [fractionValue]
    push_cast
    ring
  rw [hquotient, Rat.floor_natCast_div_natCast, fractionMilliseconds_eq_div hdigits]
  rfl

/-! ### Moments -/

/-- A date and a clock time, with any number of digits for the fraction of the second. -/
structure Moment where
  date : Date
  hour : Nat
  minute : Nat
  second : Nat
  fraction : List Char
  isWritable : date.IsWritable
  hour_le : hour ≤ 23
  minute_le : minute ≤ 59
  second_le : second ≤ 59
  isDigit : ∀ c ∈ fraction, c.isDigit

/-- How far a clock is ahead of universal time or behind it. -/
structure Offset where
  ahead : Bool
  hours : Nat
  minutes : Nat
  hours_le : hours ≤ 23
  minutes_le : minutes ≤ 59

namespace Offset

variable (o : Offset)

/-- An offset as sign, hours and minutes. -/
def text : List Char :=
  (if o.ahead then '+' else '-') :: (padded 2 o.hours ++ ':' :: padded 2 o.minutes)

/-- The minutes by which the clock is ahead. -/
def minutesAhead : Int :=
  if o.ahead then 60 * o.hours + o.minutes else -(60 * o.hours + o.minutes)

theorem isTrimmed_text : Text.IsTrimmed o.text := by
  refine Text.IsTrimmed.cons (by split <;> decide) ?_
  exact .append (isTrimmed_padded _ _) (.cons (by decide) (isTrimmed_padded _ _))

theorem offset?_text : offset? o.text = some o.minutesAhead := by
  have hhours : o.hours < 100 := Nat.lt_of_le_of_lt o.hours_le (by decide)
  have hminutes : o.minutes < 100 := Nat.lt_of_le_of_lt o.minutes_le (by decide)
  have hend := @spanNumber?_padded_two o.minutes [] hminutes
  rw [List.append_nil] at hend
  have hsize : offsetSize? (padded 2 o.hours ++ ':' :: padded 2 o.minutes) =
      some (60 * o.hours + o.minutes) := by
    simp [offsetSize?, spanOneOf?, spanNumber?_padded_two hhours, hend,
      o.hours_le, o.minutes_le, Int.mul_comm]
  cases hahead : o.ahead with
  | true => simp [text, minutesAhead, offset?, hahead, hsize]
  | false => simp [text, minutesAhead, offset?, hahead, hsize]

end Offset

/-- A form in which a moment is written. -/
inductive Form where
  /-- Date and clock with a space between them. -/
  | spaced
  /-- Date and clock with a letter between them. -/
  | lettered
  /-- The form with the letter for universal time. -/
  | universal
  /-- The form with an offset from universal time. -/
  | offset (o : Offset)

namespace Form

/-- What stands between date and clock. -/
def separator : Form → Char
  | spaced => ' '
  | lettered | universal | offset _ => 'T'

/-- What stands behind the clock. -/
def zoneText : Form → List Char
  | spaced | lettered => []
  | universal => ['Z']
  | offset o => o.text

/-- The minutes by which the clock is ahead of universal time, as the form tells it. -/
def minutesAhead : Form → Int
  | spaced | lettered | universal => 0
  | offset o => o.minutesAhead

/-- What stands behind the clock carries on neither its digits nor its point. -/
theorem head?_zoneText (form : Form) :
    ∀ c ∈ form.zoneText.head?, c.isDigit = false ∧ c ≠ '.' := by
  cases form with
  | spaced => nofun
  | lettered => nofun
  | universal =>
    rintro _ ⟨⟩
    decide
  | offset o =>
    rintro _ ⟨⟩
    split <;> decide

theorem isTrimmed_zoneText (form : Form) : Text.IsTrimmed form.zoneText := by
  cases form with
  | spaced | lettered | universal => exact ⟨by decide, by decide⟩
  | offset o => exact o.isTrimmed_text

end Form

namespace Moment

variable (m : Moment)

/-- A point and the digits of the fraction, if it has any. -/
def fractionText : List Char :=
  if m.fraction = [] then [] else '.' :: m.fraction

/-- A clock time as hours, minutes, seconds and a fraction. -/
def clockText : List Char :=
  padded 2 m.hour ++ ':' :: (padded 2 m.minute ++ ':' :: (padded 2 m.second ++ m.fractionText))

/-- A moment in one of its forms. -/
def text (form : Form) : List Char :=
  m.date.text ++ form.separator :: (m.clockText ++ form.zoneText)

theorem isTrimmed_fractionText : Text.IsTrimmed m.fractionText := by
  rw [fractionText]
  split
  next => exact ⟨by decide, by decide⟩
  next =>
    refine Text.IsTrimmed.cons (by decide) (.of_forall fun c hc => ?_)
    exact Text.isBlank_of_isDigit (m.isDigit c hc)

theorem isTrimmed_clockText : Text.IsTrimmed m.clockText := by
  refine .append (isTrimmed_padded _ _) (.cons (by decide) ?_)
  refine .append (isTrimmed_padded _ _) (.cons (by decide) ?_)
  exact .append (isTrimmed_padded _ _) m.isTrimmed_fractionText

/-- The space that may stand behind the date is at neither end. -/
theorem isTrimmed_text (form : Form) : Text.IsTrimmed (m.text form) := by
  have hdate : m.date.text ≠ [] := by simp [Date.text]
  have hclock : m.clockText ++ form.zoneText ≠ [] := by simp [clockText]
  have htrimmed := m.isTrimmed_clockText.append form.isTrimmed_zoneText
  exact m.date.isTrimmed_text.append_append htrimmed [form.separator] hdate hclock

/-- The clock time to the millisecond. -/
def clock : Clock where
  hour := m.hour
  minute := m.minute
  second := m.second
  millisecond := fractionMilliseconds m.fraction

theorem ofParts?_clock :
    Clock.ofParts? m.hour m.minute m.second (fractionMilliseconds m.fraction) = some m.clock :=
  if_pos ⟨m.hour_le, m.minute_le, Nat.le_succ_of_le m.second_le⟩

/-- The bounds of the fields, by which each has as many digits as it is written with. -/
theorem fields_lt : m.hour < 100 ∧ m.minute < 100 ∧ m.second < 100 := by
  have hhour := m.hour_le
  have hminute := m.minute_le
  have hsecond := m.second_le
  omega

theorem spanFraction?_fractionText {rest : List Char}
    (hrest : ∀ c ∈ rest.head?, c.isDigit = false ∧ c ≠ '.') :
    spanFraction? (m.fractionText ++ rest) = some (fractionMilliseconds m.fraction, rest) := by
  rw [fractionText]
  split
  next hnone =>
    rw [hnone, List.nil_append]
    unfold spanFraction?
    split
    next => exact absurd rfl (hrest '.' rfl).2
    next => rfl
  next hsome =>
    have hboundary : rest.head?.any Char.isDigit = false := by
      rw [Option.any_eq_false]
      exact fun c hc => (hrest c hc).1
    obtain ⟨hdigits, hlater⟩ := Text.span_append m.isDigit hboundary
    rw [List.cons_append, spanFraction?, hdigits, hlater]
    exact if_neg (by simpa using hsome)

theorem spanStrictClock?_clockText {rest : List Char}
    (hrest : ∀ c ∈ rest.head?, c.isDigit = false ∧ c ≠ '.') :
    spanStrictClock? (m.clockText ++ rest) = some (m.clock, rest) := by
  obtain ⟨hhour, hminute, hsecond⟩ := m.fields_lt
  simp [spanStrictClock?, clockText, spanOneOf?, spanNumber?_padded_two hhour,
    spanNumber?_padded_two hminute, spanNumber?_padded_two hsecond,
    m.spanFraction?_fractionText hrest, m.ofParts?_clock]

theorem lenientClock?_clockText : lenientClock? m.clockText = some m.clock := by
  obtain ⟨hhour, hminute, hsecond⟩ := m.fields_lt
  have hfraction := @spanFraction?_fractionText m [] nofun
  rw [List.append_nil] at hfraction
  simp [lenientClock?, clockText, spanOneOf?, spanLenientNumber?_padded hhour,
    spanLenientNumber?_padded hminute, spanLenientNumber?_padded hsecond, hfraction,
    m.ofParts?_clock]

theorem ofStrict?_text (form : Form) : ofStrict? (m.text form) =
    (offset? form.zoneText).map (milliseconds m.date m.clock) := by
  have hdate := m.isWritable.spanStrictDate?_text
    (form.separator :: (m.clockText ++ form.zoneText))
  have hclock := m.spanStrictClock?_clockText form.head?_zoneText
  have hseparator : spanOneOf? ['T', 't', ' '] (form.separator :: (m.clockText ++ form.zoneText)) =
      some (m.clockText ++ form.zoneText) := by
    cases form <;> rfl
  rw [ofStrict?, text, hdate]
  simp only [Option.bind_eq_bind, Option.bind_some, hseparator, hclock, Option.pure_def,
    Option.map_eq_bind]
  rfl

theorem clockAfterDate?_spaced : clockAfterDate? (' ' :: m.clockText) = some m.clock := by
  have htrim : Text.trimStart (' ' :: m.clockText) = m.clockText := trimStart_padded 2 m.hour _
  rw [clockAfterDate?, htrim, m.lenientClock?_clockText, Option.some_or]

theorem clockAfterDate?_lettered : clockAfterDate? ('T' :: m.clockText) = some m.clock := by
  have hnone : lenientClock? (Text.trimStart ('T' :: m.clockText)) = none := rfl
  have hletter : spanOneOf? ['T'] ('T' :: m.clockText) = some m.clockText := rfl
  rw [clockAfterDate?, hnone, hletter, Option.none_or, Option.bind_some, m.lenientClock?_clockText]

theorem ofLenient?_text {form : Form} (hzone : form.zoneText = []) :
    ofLenient? (m.text form) = some (milliseconds m.date m.clock 0) := by
  have hdate := m.isWritable.spanLenientDate?_text (form.separator :: m.clockText)
  have hclock : clockAfterDate? (form.separator :: m.clockText) = some m.clock := by
    cases form with
    | spaced => exact m.clockAfterDate?_spaced
    | lettered | universal | offset => exact m.clockAfterDate?_lettered
  rw [ofLenient?, text, hzone, List.append_nil, hdate]
  simp [hclock]

/-- Every form of a moment is read, as the milliseconds of its date, its clock and its offset. -/
theorem timestamp?_text (form : Form) : (ofStrict? (m.text form)).or (ofLenient? (m.text form)) =
    some (milliseconds m.date m.clock form.minutesAhead) := by
  have hstrict := m.ofStrict?_text form
  cases form with
  | spaced =>
    rw [hstrict]
    exact m.ofLenient?_text rfl
  | lettered =>
    rw [hstrict]
    exact m.ofLenient?_text rfl
  | universal =>
    rw [hstrict]
    rfl
  | offset o =>
    rw [hstrict, Form.zoneText, o.offset?_text]
    rfl

end Moment

/-- A bare date is read as its midnight. -/
theorem Date.IsWritable.timestamp?_date {d : Date} (h : d.IsWritable) :
    (ofStrict? d.text).or (ofLenient? d.text) = some (milliseconds d .midnight 0) := by
  have hstrict := h.spanStrictDate?_text []
  have hlenient := h.spanLenientDate?_text []
  rw [List.append_nil] at hstrict hlenient
  simp [ofStrict?, ofLenient?, hstrict, hlenient, spanOneOf?]

end TriggerCompose.Calendar
