import TriggerCompose.Proofs.Preview.Aggregation
import TriggerCompose.Proofs.Preview.Normalization
import TriggerCompose.Proofs.Settings.Duration

/-!
# Spans in queries and in series

A query counts by the text of a span, and a synthesized series steps by the milliseconds of
the same span. The text reads back as the span, and the step is its width as long as the
keys stay in the range of a word, so both speak of buckets of one width.

## Main definitions

* `Preview.SameWidth`: the widths that settings put in queries and in series.

## Main statements

* `Preview.text_of_not_aggregated`: the span literal of a query.
* `Preview.key_replacement_succ`: the step between synthesized keys.
* `Preview.measured_durations`: durations as texts and as widths.
-/

namespace TriggerCompose.Preview

/-- A query that counts ends in a span literal of the settings. -/
theorem text_of_not_aggregated {base : String} {field? : Option String} {settings : Settings}
    {q : Query} (hq : buildQuery base field? settings = .ok q)
    (haggregated : q.aggregated = false) :
    ∃ earlier, q.text = earlier ++ countingClause q.timestampField settings.span := by
  obtain ⟨field, synthesized, rfl, -⟩ := exists_queryOf_of_buildQuery hq
  rw [aggregated_queryOf] at haggregated
  exact ⟨_, text_queryOf haggregated⟩

/-- The exact width of a span in milliseconds. -/
def width (span : Duration) : Int :=
  1000 * span.seconds.toNat

theorem toInt_milliseconds_of_fits {span : Duration}
    (hfits : width span ≤ Int64.maxValue.toInt) : span.milliseconds.toInt = width span := by
  have hmax := Int64.toInt_maxValue
  rw [Duration.toInt_milliseconds]
  rw [width] at hfits ⊢
  omega

/-- A key of a stand-in series is as many widths before the newest as there are buckets after
    it, cut off at the ends of the signed words. -/
theorem key_replacement {settings : Settings} {series : Series} {now : Int64} {i : Nat}
    {b : Bucket} (hfits : width settings.span ≤ Int64.maxValue.toInt)
    (hb : (replacement settings series now).buckets[i]? = some b) :
    b.key.toInt = max Int64.minValue.toInt (now.toInt -
      min (((settings.syntheticBuckets.toNat - 1 - i : Nat) : Int) * width settings.span)
        Int64.maxValue.toInt) := by
  rw [(getElem?_synthesize hb).2, toInt_stepKey _ (milliseconds_nonneg _),
    toInt_milliseconds_of_fits hfits]

/-- So it is a width after the key before it, if the earlier of the two is not cut off. -/
theorem key_replacement_succ {settings : Settings} {series : Series} {now : Int64} {i : Nat}
    {a b : Bucket} (ha : (replacement settings series now).buckets[i]? = some a)
    (hb : (replacement settings series now).buckets[i + 1]? = some b)
    (hdistance : ((settings.syntheticBuckets.toNat - 1 - i : Nat) : Int) * width settings.span ≤
      Int64.maxValue.toInt)
    (hkey : Int64.minValue.toInt ≤
      now.toInt - ((settings.syntheticBuckets.toNat - 1 - i : Nat) : Int) * width settings.span) :
    b.key.toInt = a.key.toInt + width settings.span := by
  obtain ⟨hi, -⟩ := getElem?_synthesize hb
  have hsteps : settings.syntheticBuckets.toNat - 1 - i =
      settings.syntheticBuckets.toNat - 1 - (i + 1) + 1 := by
    omega
  have hnonneg : 0 ≤ width settings.span := by
    rw [width]
    omega
  have hlater := Int.mul_nonneg
    (Int.natCast_nonneg (settings.syntheticBuckets.toNat - 1 - (i + 1))) hnonneg
  rw [hsteps, Int.natCast_succ, Int.add_mul, Int.one_mul] at hdistance hkey
  -- There is a step between the two, so a single width fits as well.
  have hfits : width settings.span ≤ Int64.maxValue.toInt := by omega
  rw [key_replacement hfits ha, key_replacement hfits hb, hsteps, Int.natCast_succ, Int.add_mul,
    Int.one_mul]
  omega

/-- The widths that settings put in queries and in series. -/
structure SameWidth (settings : Settings) : Prop where
  /-- A query that counts ends in a text that denotes the span. -/
  literal : ∀ base field? q, buildQuery base field? settings = .ok q → q.aggregated = false →
    ∃ earlier literal, q.text = earlier ++ " | stats count() by span(" ++
        fieldName q.timestampField ++ ", " ++ literal ++ ")" ∧
      Duration.parse literal = .ok settings.span
  /-- The interval of a series is the width of the span, if that fits. -/
  interval : width settings.span ≤ Int64.maxValue.toInt →
    settings.span.milliseconds.toInt = width settings.span
  /-- The keys of a series step back by that width, and are cut off at the ends of a word. -/
  key : width settings.span ≤ Int64.maxValue.toInt → ∀ series now i b,
    (replacement settings series now).buckets[i]? = some b → b.key.toInt =
      max Int64.minValue.toInt (now.toInt -
        min (((settings.syntheticBuckets.toNat - 1 - i : Nat) : Int) * width settings.span)
          Int64.maxValue.toInt)
  /-- So far apart are two keys in a row, if the earlier one is not cut off. -/
  spacing : ∀ series now i a b, (replacement settings series now).buckets[i]? = some a →
    (replacement settings series now).buckets[i + 1]? = some b →
    ((settings.syntheticBuckets.toNat - 1 - i : Nat) : Int) * width settings.span ≤
      Int64.maxValue.toInt →
    Int64.minValue.toInt ≤
      now.toInt - ((settings.syntheticBuckets.toNat - 1 - i : Nat) : Int) * width settings.span →
    b.key.toInt = a.key.toInt + width settings.span

theorem sameWidth (settings : Settings) : SameWidth settings where
  literal := by
    intro base field? q hq haggregated
    obtain ⟨earlier, htext⟩ := text_of_not_aggregated hq haggregated
    refine ⟨earlier, settings.span.display, ?_, settings.span.parse_display⟩
    rw [htext, countingClause_eq]
    simp only [String.append_assoc]
  interval := toInt_milliseconds_of_fits
  key hfits _ _ _ _ := key_replacement hfits
  spacing _ _ _ _ _ := key_replacement_succ

/-- A text is a duration just if it spells a number of units that fits, and denotes the product.
    A duration is shown with the largest unit that divides it, which is a text of that
    duration and of no other. Its width is cut off at the largest word, and short of that a
    query and a series under the same settings have buckets of the same width. -/
theorem measured_durations :
    (∀ text, ((∃ d, Duration.parse text = .ok d) ↔ ∃ seconds, Duration.Denotes text seconds) ∧
      ∀ d, Duration.parse text = .ok d → Duration.Denotes text d.seconds.toNat ∧
        ∀ again, Duration.parse d.display = .ok again → again.display = d.display) ∧
      (∀ d : Duration, Duration.IsDisplay d.seconds.toNat d.display.toList ∧
        Duration.parse d.display = .ok d ∧
        (∀ other : Duration, other ≠ d → other.display ≠ d.display) ∧
        d.milliseconds.toInt = min (1000 * (d.seconds.toNat : Int)) 9223372036854775807) ∧
      ∀ settings, SameWidth settings := by
  refine ⟨fun text => ⟨Duration.exists_parse_iff,
      fun d hd => ⟨Duration.parse_eq_ok_iff.mp hd, ?_⟩⟩,
    fun d => ⟨?_, d.parse_display, ?_, d.toInt_milliseconds⟩, sameWidth⟩
  · intro again hagain
    rw [d.parse_display] at hagain
    rw [Except.ok.inj hagain]
  · rw [d.toList_display]
    exact d.isDisplay_displayChars
  · intro other hother hdisplay
    exact hother (Duration.display_injective hdisplay)

/-- Leading zeros are read and not shown, and two keys of an hourly series are an hour apart. -/
theorem measured_durations_padded :
    let span : Duration := ⟨7200⟩
    Duration.parse " 0120m\u3000" = .ok span ∧ Duration.Denotes " 0120m\u3000" 7200 ∧
      span.display = "2h" ∧
      ∃ a b, (replacement Settings.standard ⟨[], 40⟩ 1700000000000).buckets[3]? = some a ∧
        (replacement Settings.standard ⟨[], 40⟩ 1700000000000).buckets[4]? = some b ∧
          b.key.toInt = a.key.toInt + 3600000 := by
  intro span
  have hparse : Duration.parse " 0120m\u3000" = .ok span := by decide +kernel
  have hdisplay : span.display = "2h" := by decide +kernel
  have hwidth : width Settings.standard.span = 3600000 := by decide +kernel
  have hthird : ((replacement Settings.standard ⟨[], 40⟩ 1700000000000).buckets[3]?).isSome := by
    decide +kernel
  have hfourth : ((replacement Settings.standard ⟨[], 40⟩ 1700000000000).buckets[4]?).isSome := by
    decide +kernel
  obtain ⟨a, ha⟩ := Option.isSome_iff_exists.mp hthird
  obtain ⟨b, hb⟩ := Option.isSome_iff_exists.mp hfourth
  have hspacing := (measured_durations.2.2 Settings.standard).spacing _ _ 3 a b ha hb
    (by decide +kernel) (by decide +kernel)
  rw [hwidth] at hspacing
  exact ⟨hparse, ((measured_durations.1 _).2 span hparse).1, hdisplay, a, b, ha, hb, hspacing⟩

end TriggerCompose.Preview
