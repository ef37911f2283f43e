import TriggerCompose.Preview.Cell
import TriggerCompose.Proofs.Calendar.Timestamp
import TriggerCompose.Proofs.Number.Spelling
import Mathlib.Data.Rat.Floor

/-!
# Keys of timestamps

The text of a point in time is first held against the readers of numbers. These decline it at the
hyphen behind the year, so that its key is the milliseconds of its date, its clock and its offset.
All the ways of writing one instant have one key, and keys go up with the instants, before the
epoch as after it.

## Main definitions

* `Calendar.Moment.milliseconds`, `Calendar.Moment.instant`: a moment by its days from the epoch.
* `Calendar.Moment.Before`: the order of moments by their fields.
* `Preview.Cell.HasKey`: the key of a text.
* `Preview.Cell.Keyed`: the keys of all texts of one moment.

## Main statements

* `Preview.Cell.hasKey_text`, `Preview.Cell.hasKey_date`: the key of a moment in any form, and of
  a bare date.
* `Preview.Cell.keyed_instants`: one key for each instant, in the order of instants.
-/

namespace TriggerCompose

/-! ### Moments as milliseconds -/

namespace Calendar

theorem Offset.minutesAhead_mem (o : Offset) : -1440 < o.minutesAhead ∧ o.minutesAhead < 1440 := by
  have hhours := o.hours_le
  have hminutes := o.minutes_le
  rw [minutesAhead]
  split <;> omega

theorem Form.minutesAhead_mem (form : Form) :
    -1440 < form.minutesAhead ∧ form.minutesAhead < 1440 := by
  cases form with
  | offset o => exact o.minutesAhead_mem
  | spaced | lettered | universal => decide

theorem Date.IsWritable.dayNumber_mem {d : Date} (h : d.IsWritable) :
    -719528 ≤ d.dayNumber ∧ d.dayNumber < 2932897 := by
  constructor
  · calc -719528 = yearStart 0 := rfl
      _ ≤ yearStart d.year := yearStart_le h.year_nonneg
      _ ≤ d.dayNumber := h.yearStart_le_dayNumber
  · calc d.dayNumber < yearStart (d.year + 1) := h.dayNumber_lt_yearStart
      _ ≤ yearStart 10000 := yearStart_le h.year_lt
      _ = 2932897 := rfl

namespace Moment

variable (m : Moment)

/-- The seconds since midnight, without the fraction. -/
def secondOfDay : Nat :=
  3600 * m.hour + 60 * m.minute + m.second

/-- The seconds from the epoch, without the fraction, for the days from the epoch to the date. -/
def seconds (days : Int) : Int :=
  86400 * days + m.secondOfDay

/-- The milliseconds from the epoch, without what the fraction has beyond them. -/
def milliseconds (days : Int) : Int :=
  1000 * m.seconds days + ⌊1000 * fractionValue m.fraction⌋

/-- The exact seconds from the epoch to a moment that is written in some form. -/
def instant (form : Form) (days : Int) : ℚ :=
  m.seconds days + fractionValue m.fraction - 60 * form.minutesAhead

/-- The start of the day of a moment. -/
def midnight : Moment where
  date := m.date
  hour := 0
  minute := 0
  second := 0
  fraction := []
  isWritable := m.isWritable
  hour_le := by decide
  minute_le := by decide
  second_le := by decide
  isDigit := nofun

/-- An earlier date, or the same date and an earlier second of it. -/
def Before (m later : Moment) : Prop :=
  m.date.Before later.date ∨ m.date = later.date ∧ m.secondOfDay < later.secondOfDay

theorem secondOfDay_lt : m.secondOfDay < 86400 := by
  have hhour := m.hour_le
  have hminute := m.minute_le
  have hsecond := m.second_le
  rw [secondOfDay]
  omega

/-- The milliseconds that the readers find. -/
theorem milliseconds_clock (minutesAhead : Int) :
    Calendar.milliseconds m.date m.clock minutesAhead =
      m.milliseconds m.date.dayNumber - 60000 * minutesAhead := by
  rw [Calendar.milliseconds, Clock.sinceMidnight, clock, milliseconds, seconds, secondOfDay,
    dayLength, floor_fractionValue m.isDigit]
  push_cast
  ring

theorem milliseconds_midnight (days : Int) : m.midnight.milliseconds days = 86400000 * days := by
  have hfraction : fractionValue m.midnight.fraction = 0 := by simp [fractionValue, midnight]
  have hsecond : m.midnight.secondOfDay = 0 := rfl
  rw [milliseconds, seconds, hsecond, hfraction, mul_zero, Int.floor_zero]
  omega

theorem milliseconds_mem : -100000000000000 < m.milliseconds m.date.dayNumber ∧
    m.milliseconds m.date.dayNumber < 300000000000000 := by
  have hdays := m.isWritable.dayNumber_mem
  have hsecond := m.secondOfDay_lt
  have hfraction := fractionMilliseconds_lt m.isDigit
  rw [milliseconds, seconds, floor_fractionValue m.isDigit]
  omega

/-- The milliseconds of an instant are rounded down. -/
theorem floor_instant (form : Form) (days : Int) :
    ⌊1000 * m.instant form days⌋ = m.milliseconds days - 60000 * form.minutesAhead := by
  have hsum : 1000 * m.instant form days =
      ((1000 * m.seconds days - 60000 * form.minutesAhead : ℤ) : ℚ) +
        1000 * fractionValue m.fraction := by
    rw [instant]
    push_cast
    ring
  rw [hsum, Int.floor_intCast_add, milliseconds]
  ring

theorem milliseconds_lt {m later : Moment} (h : m.Before later) :
    m.milliseconds m.date.dayNumber < later.milliseconds later.date.dayNumber := by
  have hfraction := fractionMilliseconds_lt m.isDigit
  have hsecond := m.secondOfDay_lt
  rw [milliseconds, milliseconds, seconds, seconds, floor_fractionValue m.isDigit,
    floor_fractionValue later.isDigit]
  rcases h with hdate | ⟨hdate, hclock⟩
  · have hdays := Date.dayNumber_lt m.isWritable.toIsValid later.isWritable.toIsValid hdate
    omega
  · rw [hdate]
    omega

end Moment

end Calendar

/-! ### Keys -/

namespace Preview.Cell

open Calendar (Date Moment Form)

/-- The key of a text, as an integer. -/
def HasKey (text : List Char) (n : Int) : Prop :=
  ∃ k, key? (.string (String.ofList text)) = some k ∧ k.toInt = n

/-- The keys of all that is written for a moment, of which the date is so many days from the
    epoch. -/
structure Keyed (m : Moment) (days : Int) : Prop where
  spaced : HasKey (m.text .spaced) (m.milliseconds days)
  lettered : HasKey (m.text .lettered) (m.milliseconds days)
  universal : HasKey (m.text .universal) (m.milliseconds days)
  offset : ∀ o, HasKey (m.text (.offset o)) (m.milliseconds days - 60000 * o.minutesAhead)
  date : HasKey m.date.text (m.midnight.milliseconds days)

/-- A trimmed text that starts with the year of a date and is a timestamp has the milliseconds of
    the timestamp for its key. -/
theorem hasKey_of_timestamp? {year : Nat} {rest : List Char} {n : Int}
    (htrimmed : Text.IsTrimmed (Calendar.padded 4 year ++ '-' :: rest))
    (htimestamp : (Calendar.ofStrict? (Calendar.padded 4 year ++ '-' :: rest)).or
      (Calendar.ofLenient? (Calendar.padded 4 year ++ '-' :: rest)) = some n)
    (hlow : -2 ^ 63 ≤ n) (hhigh : n < 2 ^ 63) :
    HasKey (Calendar.padded 4 year ++ '-' :: rest) n := by
  have hdigits : ∀ c ∈ Calendar.padded 4 year, c.isDigit :=
    fun c hc => Calendar.isDigit_of_mem_padded hc
  have hne : Calendar.padded 4 year ≠ [] := by
    obtain ⟨c, later, htext, -⟩ := Calendar.exists_padded_cons 4 year
    rw [htext]
    exact List.cons_ne_nil c later
  refine ⟨Int64.ofInt n, ?_, Int64.toInt_ofInt_of_le hlow hhigh⟩
  rw [key?, String.toList_ofList, htrimmed.trim_eq, keyOfText?,
    Number.signed?_of_hyphen hdigits hne, Number.ofText?_of_hyphen hdigits hne, htimestamp]
  rfl

theorem hasKey_text (m : Moment) (form : Form) : HasKey (m.text form)
    (m.milliseconds m.date.dayNumber - 60000 * form.minutesAhead) := by
  have hread := m.timestamp?_text form
  have htrimmed := m.isTrimmed_text form
  have hmilliseconds := m.milliseconds_mem
  have hahead := form.minutesAhead_mem
  rw [m.milliseconds_clock] at hread
  rw [Moment.text, Date.text, List.append_assoc, List.cons_append] at hread htrimmed ⊢
  exact hasKey_of_timestamp? htrimmed hread (by omega) (by omega)

theorem hasKey_date (m : Moment) :
    HasKey m.date.text (m.midnight.milliseconds m.date.dayNumber) := by
  have hread := m.isWritable.timestamp?_date
  have hmidnight := m.midnight.milliseconds_clock 0
  have hmilliseconds := m.midnight.milliseconds_mem
  have hclock : m.midnight.clock = .midnight := rfl
  have hdate : m.midnight.date = m.date := rfl
  rw [hclock, hdate, Int.mul_zero, Int.sub_zero] at hmidnight
  rw [hdate] at hmilliseconds
  rw [hmidnight] at hread
  exact hasKey_of_timestamp? m.date.isTrimmed_text hread (by omega) (by omega)

theorem keyed_moment (m : Moment) : Keyed m m.date.dayNumber where
  spaced := by simpa [Form.minutesAhead] using hasKey_text m .spaced
  lettered := by simpa [Form.minutesAhead] using hasKey_text m .lettered
  universal := by simpa [Form.minutesAhead] using hasKey_text m .universal
  offset o := hasKey_text m (.offset o)
  date := hasKey_date m

theorem HasKey.toInt_eq {text : List Char} {n : Int} (h : HasKey text n) {k : Int64}
    (hk : key? (.string (String.ofList text)) = some k) : k.toInt = n := by
  obtain ⟨k', hk', rfl⟩ := h
  rw [hk] at hk'
  cases hk'
  rfl

/-- Keys do not go down from one instant to a later one, whatever the offsets are. -/
theorem key_le_of_instant_le {m later : Moment} {form form' : Form}
    (h : m.instant form m.date.dayNumber ≤ later.instant form' later.date.dayNumber) {k k' : Int64}
    (hk : key? (.string (String.ofList (m.text form))) = some k)
    (hk' : key? (.string (String.ofList (later.text form'))) = some k') : k ≤ k' := by
  rw [Int64.le_iff_toInt_le, (hasKey_text m form).toInt_eq hk,
    (hasKey_text later form').toInt_eq hk', ← m.floor_instant, ← later.floor_instant]
  exact Int.floor_le_floor (by linarith)

/-- Keys go up from one second to a later one, where the offset is the same. -/
theorem key_lt_of_before {m later : Moment} {form form' : Form} (h : m.Before later)
    (hoffset : form.minutesAhead = form'.minutesAhead) {k k' : Int64}
    (hk : key? (.string (String.ofList (m.text form))) = some k)
    (hk' : key? (.string (String.ofList (later.text form'))) = some k') : k < k' := by
  have hlt := Moment.milliseconds_lt h
  rw [Int64.lt_iff_toInt_lt, (hasKey_text m form).toInt_eq hk,
    (hasKey_text later form').toInt_eq hk', hoffset]
  omega

/-- All texts of one instant have one key, the milliseconds from the epoch, and keys order instants
    as time does: those of different seconds strictly, also before the epoch. -/
theorem keyed_instants (m : Moment) :
    ∃ days, m.date.DaysFromEpoch days ∧ Keyed m days ∧
      ∀ (later : Moment) (days' : Int) (form form' : Form) (k k' : Int64),
        later.date.DaysFromEpoch days' →
        key? (.string (String.ofList (m.text form))) = some k →
        key? (.string (String.ofList (later.text form'))) = some k' →
          (m.instant form days ≤ later.instant form' days' → k ≤ k') ∧
            (m.Before later → form.minutesAhead = form'.minutesAhead → k < k') := by
  refine ⟨m.date.dayNumber, ?_, keyed_moment m, ?_⟩
  · exact (Date.daysFromEpoch_iff m.isWritable.toIsValid).mpr rfl
  · intro later days' form form' k k' hdays hk hk'
    obtain rfl := (Date.daysFromEpoch_iff later.isWritable.toIsValid).mp hdays
    exact ⟨fun hinstant => key_le_of_instant_le hinstant hk hk',
      fun hbefore hoffset => key_lt_of_before hbefore hoffset hk hk'⟩

/-- The last second before the epoch has negative keys, rounded down, that are smaller than those
    of the epoch, and a key after the epoch where its clock is behind. -/
theorem keyed_instants_before_epoch :
    HasKey "1969-12-31 23:59:59.9996".toList (-1) ∧
      HasKey "1969-12-31T23:59:59.9996".toList (-1) ∧
      HasKey "1969-12-31T23:59:59.9996Z".toList (-1) ∧
      HasKey "1969-12-31T23:59:59.9996-01:30".toList 5399999 ∧
      HasKey "1969-12-31".toList (-86400000) ∧
      ∃ k k', key? (.string "1969-12-31T23:59:59.9996Z") = some k ∧
        key? (.string "1970-01-01 00:00:00") = some k' ∧ k < k' := by
  let m : Moment :=
    { date := ⟨1969, 12, 31⟩, hour := 23, minute := 59, second := 59,
      fraction := ['9', '9', '9', '6'],
      isWritable := ⟨⟨by decide, by decide⟩, by decide, by decide⟩,
      hour_le := by decide, minute_le := by decide, second_le := by decide, isDigit := by simp }
  let later : Moment :=
    { date := .epoch, hour := 0, minute := 0, second := 0, fraction := [],
      isWritable := ⟨Date.isValid_epoch, by decide, by decide⟩,
      hour_le := by decide, minute_le := by decide, second_le := by decide, isDigit := nofun }
  let behind : Calendar.Offset :=
    { ahead := false, hours := 1, minutes := 30, hours_le := by decide, minutes_le := by decide }
  have hdate : m.date.DaysFromEpoch (-1) :=
    (Date.daysFromEpoch_iff m.isWritable.toIsValid).mpr (by decide +kernel)
  have hlater : later.date.DaysFromEpoch 0 :=
    (Date.daysFromEpoch_iff later.isWritable.toIsValid).mpr (by decide +kernel)
  obtain ⟨days, hdays, hkeyed, horder⟩ := keyed_instants m
  obtain rfl : days = -1 := by
    rw [Date.daysFromEpoch_iff m.isWritable.toIsValid] at hdays hdate
    rw [hdays, hdate]
  have hmilliseconds : m.milliseconds (-1) = -1 := by
    rw [Moment.milliseconds, Calendar.floor_fractionValue m.isDigit]
    decide +kernel
  have hspaced : m.text .spaced = "1969-12-31 23:59:59.9996".toList := by decide +kernel
  have hlettered : m.text .lettered = "1969-12-31T23:59:59.9996".toList := by decide +kernel
  have huniversal : m.text .universal = "1969-12-31T23:59:59.9996Z".toList := by decide +kernel
  have hoffset : m.text (.offset behind) = "1969-12-31T23:59:59.9996-01:30".toList := by
    decide +kernel
  have hbare : m.date.text = "1969-12-31".toList := by decide +kernel
  have hepoch : later.text .spaced = "1970-01-01 00:00:00".toList := by decide +kernel
  refine ⟨?_, ?_, ?_, ?_, ?_, ?_⟩
  · rw [← hspaced, ← hmilliseconds]
    exact hkeyed.spaced
  · rw [← hlettered, ← hmilliseconds]
    exact hkeyed.lettered
  · rw [← huniversal, ← hmilliseconds]
    exact hkeyed.universal
  · have hkey := hkeyed.offset behind
    have hbehind : -1 - 60000 * behind.minutesAhead = 5399999 := by decide +kernel
    rw [hoffset, hmilliseconds, hbehind] at hkey
    exact hkey
  · have hkey := hkeyed.date
    rw [hbare, m.milliseconds_midnight] at hkey
    exact hkey
  · obtain ⟨k, hk, -⟩ := hkeyed.universal
    obtain ⟨k', hk', -⟩ := (keyed_moment later).spaced
    obtain ⟨-, hlt⟩ := horder later 0 .universal .spaced k k' hlater hk hk'
    rw [huniversal, String.ofList_toList] at hk
    rw [hepoch, String.ofList_toList] at hk'
    exact ⟨k, k', hk, hk', hlt (.inl (.inl (by decide))) rfl⟩

end Preview.Cell

end TriggerCompose
