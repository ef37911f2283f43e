import TriggerCompose.Calendar.Date
import Mathlib.Logic.Function.Iterate
import Mathlib.Order.Monotone.Basic

/-!
# Day numbers

The number of a date is the number of days that one counts from the epoch to it, or from it to the
epoch for a date before that. The formula for the number agrees with counting because it goes up
by one from each date to the next, also over the ends of months and years.

## Main definitions

* `Calendar.Date.IsValid`: the dates of the calendar.
* `Calendar.Date.next`: the day after a date.
* `Calendar.Date.DaysFromEpoch`: the days from the epoch to a date, counted one after the other.
* `Calendar.Date.Before`: the order of dates.

## Main statements

* `Calendar.Date.dayNumber_next`: the formula goes up by one from a date to the next.
* `Calendar.Date.dayNumber_lt`: an earlier date has a smaller number.
* `Calendar.Date.daysFromEpoch_iff`: the formula counts the days from the epoch.
-/

namespace TriggerCompose.Calendar

/-! ### Months and years -/

theorem daysInMonth_pos_iff {year : Int} {month : Nat} :
    0 < daysInMonth year month ↔ 1 ≤ month ∧ month ≤ 12 := by
  unfold daysInMonth
  split
  case h_12 => cases isLeap year <;> decide
  case h_13 =>
    simp only [imp_false] at *
    omega
  all_goals decide

theorem daysInMonth_le (year : Int) (month : Nat) : daysInMonth year month ≤ 31 := by
  unfold daysInMonth
  split
  case h_12 => cases isLeap year <;> decide
  all_goals decide

theorem daysBeforeMonth_succ (year : Int) {month : Nat} (h : 1 ≤ month) :
    daysBeforeMonth year (month + 1) = daysBeforeMonth year month + daysInMonth year month := by
  obtain ⟨earlier, rfl⟩ := Nat.exists_eq_add_of_le' h
  simp [daysBeforeMonth, List.range_succ]

theorem daysBeforeMonth_le (year : Int) {month later : Nat} (h : month ≤ later) :
    daysBeforeMonth year month ≤ daysBeforeMonth year later := by
  refine monotone_nat_of_le_succ (fun month => ?_) h
  cases month with
  | zero => exact Nat.le_refl 0
  | succ earlier =>
    rw [daysBeforeMonth_succ year (Nat.le_add_left 1 earlier)]
    exact Nat.le_add_right _ _

/-- The days of a year. -/
def daysInYear (year : Int) : Nat :=
  if isLeap year then 366 else 365

theorem daysBeforeMonth_thirteen (year : Int) : daysBeforeMonth year 13 = daysInYear year := by
  rw [daysInYear]
  split
  next h => simp [daysBeforeMonth, List.range, List.range.loop, daysInMonth, h]
  next h => simp [daysBeforeMonth, List.range, List.range.loop, daysInMonth, h]

theorem yearStart_succ (year : Int) : yearStart (year + 1) = yearStart year + daysInYear year := by
  have hleap : isLeap year = true ↔ year % 4 = 0 ∧ (year % 100 ≠ 0 ∨ year % 400 = 0) := by
    simp [isLeap]
  simp only [daysInYear, yearStart, leapsBefore, hleap]
  split <;> omega

theorem yearStart_le {year later : Int} (h : year ≤ later) : yearStart year ≤ yearStart later := by
  refine monotone_int_of_le_succ (fun year => ?_) h
  rw [yearStart_succ]
  omega

namespace Date

/-! ### Dates and their order -/

/-- A date of the calendar, of any year. A month that is none of the twelve has no day. -/
structure IsValid (d : Date) : Prop where
  one_le_day : 1 ≤ d.day
  day_le : d.day ≤ daysInMonth d.year d.month

/-- An earlier year, or an earlier month of the same year, or an earlier day of the same month. -/
def Before (d e : Date) : Prop :=
  d.year < e.year ∨ d.year = e.year ∧ (d.month < e.month ∨ d.month = e.month ∧ d.day < e.day)

theorem before_or_eq_or_before (d e : Date) : d.Before e ∨ d = e ∨ e.Before d := by
  obtain ⟨year, month, day⟩ := d
  obtain ⟨year', month', day'⟩ := e
  simp only [Before, Date.mk.injEq]
  omega

namespace IsValid

variable {d e : Date}

theorem month_mem (h : d.IsValid) : 1 ≤ d.month ∧ d.month ≤ 12 :=
  daysInMonth_pos_iff.mp (Nat.lt_of_lt_of_le h.one_le_day h.day_le)

/-- The days of a year up to a date of it are no more than those before the next month. -/
theorem daysBeforeMonth_add_day_le (h : d.IsValid) :
    daysBeforeMonth d.year d.month + d.day ≤ daysBeforeMonth d.year (d.month + 1) := by
  rw [daysBeforeMonth_succ d.year h.month_mem.1]
  exact Nat.add_le_add_left h.day_le _

theorem yearStart_le_dayNumber (h : d.IsValid) : yearStart d.year ≤ d.dayNumber := by
  have hday := h.one_le_day
  rw [dayNumber]
  omega

theorem dayNumber_lt_yearStart (h : d.IsValid) : d.dayNumber < yearStart (d.year + 1) := by
  have hmonth : daysBeforeMonth d.year (d.month + 1) ≤ daysInYear d.year := by
    rw [← daysBeforeMonth_thirteen]
    exact daysBeforeMonth_le d.year (Nat.succ_le_succ h.month_mem.2)
  have hday := h.daysBeforeMonth_add_day_le
  rw [yearStart_succ, dayNumber]
  omega

end IsValid

/-- An earlier date has a smaller number. -/
theorem dayNumber_lt {d e : Date} (hd : d.IsValid) (he : e.IsValid) (h : d.Before e) :
    d.dayNumber < e.dayNumber := by
  rcases h with hyear | ⟨hyear, hmonth | ⟨hmonth, hday⟩⟩
  · calc d.dayNumber < yearStart (d.year + 1) := hd.dayNumber_lt_yearStart
      _ ≤ yearStart e.year := yearStart_le hyear
      _ ≤ e.dayNumber := he.yearStart_le_dayNumber
  · have hle : daysBeforeMonth e.year (d.month + 1) ≤ daysBeforeMonth e.year e.month :=
      daysBeforeMonth_le e.year hmonth
    have hday := hd.daysBeforeMonth_add_day_le
    have hone := he.one_le_day
    rw [hyear] at hday
    rw [dayNumber, dayNumber, hyear]
    omega
  · rw [dayNumber, dayNumber, hyear, hmonth]
    omega

theorem dayNumber_injective {d e : Date} (hd : d.IsValid) (he : e.IsValid)
    (h : d.dayNumber = e.dayNumber) : d = e := by
  rcases before_or_eq_or_before d e with hbefore | heq | hbefore
  · exact absurd h (Int.ne_of_lt (dayNumber_lt hd he hbefore))
  · exact heq
  · exact absurd h (Int.ne_of_gt (dayNumber_lt he hd hbefore))

/-! ### Counting days -/

/-- The day after a date. -/
def next (d : Date) : Date :=
  if d.day < daysInMonth d.year d.month then { d with day := d.day + 1 }
  else if d.month < 12 then { d with month := d.month + 1, day := 1 }
  else { year := d.year + 1, month := 1, day := 1 }

/-- The date that day numbers start from. -/
def epoch : Date where
  year := 1970
  month := 1
  day := 1

/-- The days from the epoch to a date: so many days are counted from the epoch to reach the date,
    or from the date to reach the epoch where the number is negative. -/
structure DaysFromEpoch (d : Date) (n : Int) : Prop where
  forward : 0 ≤ n → next^[n.toNat] epoch = d
  backward : n ≤ 0 → next^[(-n).toNat] d = epoch

theorem isValid_epoch : epoch.IsValid where
  one_le_day := Nat.le_refl 1
  day_le := by decide

theorem dayNumber_epoch : epoch.dayNumber = 0 := rfl

theorem isValid_next (d : Date) : d.next.IsValid := by
  have hfirst : ∀ {year : Int} {month : Nat}, 1 ≤ month → month ≤ 12 →
      (Date.mk year month 1).IsValid :=
    fun hone htwelve => ⟨Nat.le_refl 1, daysInMonth_pos_iff.mpr ⟨hone, htwelve⟩⟩
  rw [next]
  split
  next hday => exact ⟨Nat.le_add_left 1 d.day, hday⟩
  next =>
    split
    next hlast => exact hfirst (Nat.le_add_left 1 d.month) hlast
    next => exact hfirst (by decide) (by decide)

/-- The formula goes up by one from a date to the next. -/
theorem dayNumber_next {d : Date} (h : d.IsValid) : d.next.dayNumber = d.dayNumber + 1 := by
  have hmonth := h.month_mem
  have hone := h.one_le_day
  have hle := h.day_le
  have hsucc := daysBeforeMonth_succ d.year hmonth.1
  rw [next]
  split
  next hday =>
    simp only [dayNumber]
    omega
  next hday =>
    -- The date is the last one of its month.
    split
    next hlast =>
      simp only [dayNumber]
      omega
    next hlast =>
      have hdecember : d.month = 12 := by omega
      have hyear : daysBeforeMonth d.year (d.month + 1) = daysInYear d.year := by
        rw [hdecember]
        exact daysBeforeMonth_thirteen d.year
      have hstart : daysBeforeMonth (d.year + 1) 1 = 0 := rfl
      simp only [dayNumber, yearStart_succ, hstart]
      omega

theorem isValid_iterate_next {d : Date} (h : d.IsValid) (n : Nat) : (next^[n] d).IsValid := by
  cases n with
  | zero => exact h
  | succ n =>
    rw [Function.iterate_succ_apply']
    exact isValid_next _

theorem dayNumber_iterate_next {d : Date} (h : d.IsValid) (n : Nat) :
    (next^[n] d).dayNumber = d.dayNumber + n := by
  induction n with
  | zero => exact (Int.add_zero _).symm
  | succ n ih =>
    rw [Function.iterate_succ_apply', dayNumber_next (isValid_iterate_next h n), ih]
    omega

/-- The formula counts the days from the epoch. -/
theorem daysFromEpoch_iff {d : Date} (h : d.IsValid) {n : Int} :
    d.DaysFromEpoch n ↔ n = d.dayNumber := by
  constructor
  · intro hdays
    rcases Int.le_total 0 n with hn | hn
    · have hforward := dayNumber_iterate_next isValid_epoch n.toNat
      rw [hdays.forward hn, dayNumber_epoch] at hforward
      omega
    · have hbackward := dayNumber_iterate_next h (-n).toNat
      rw [hdays.backward hn, dayNumber_epoch] at hbackward
      omega
  · rintro rfl
    refine ⟨fun hn => ?_, fun hn => ?_⟩
    · refine dayNumber_injective (isValid_iterate_next isValid_epoch _) h ?_
      rw [dayNumber_iterate_next isValid_epoch, dayNumber_epoch]
      omega
    · refine dayNumber_injective (isValid_iterate_next h _) isValid_epoch ?_
      rw [dayNumber_iterate_next h, dayNumber_epoch]
      omega

end Date

end TriggerCompose.Calendar
