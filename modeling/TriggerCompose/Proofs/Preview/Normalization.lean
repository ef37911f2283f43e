import TriggerCompose.Preview.Normalization
import TriggerCompose.Proofs.Preview.Histogram
import TriggerCompose.Proofs.Settings.Requirements

/-!
# What is shown keeps the total

Under accepted settings a table is shown either as its own histogram or as a synthesized
one. Either has a bucket and ascending keys, and its counts add up to the total of the
histogram, so the choice between them never shows in the total. The least number of buckets is
asked of the histogram only: a synthesized series has as many as the settings say.

## Main definitions

* `Preview.Presented`: what the series shown for a histogram is like.
* `Preview.Filled`: how many buckets are shown for a histogram.

## Main statements

* `Preview.bucketSum_synthesize`: the counts of a synthesized series.
* `Preview.presented_normalize`: the series shown for a table.
* `Preview.filled_normalize`: whether it has the least number of buckets.
-/

namespace TriggerCompose.Preview

/-! ### Synthesized series -/

/-- The keys of a synthesized series step back from the newest, the oldest first. -/
theorem map_key_synthesize (total : UInt64) (n : Nat) (interval now : Int64) :
    (synthesize total n interval now).buckets.map (·.key) =
      (List.range n).map fun i => stepKey now interval (n - 1 - i) := by
  refine List.ext_getElem (by simp [length_synthesize]) fun i hi _ => ?_
  rw [List.length_map] at hi
  rw [List.getElem_map, List.getElem_map, List.getElem_range,
    (getElem?_synthesize (List.getElem?_eq_getElem hi)).2]

theorem getLast?_key_synthesize (total : UInt64) {n : Nat} {interval : Int64} (now : Int64)
    (hn : 0 < n) (hinterval : 0 ≤ interval) :
    (synthesize total n interval now).buckets.getLast?.map (·.key) = some now := by
  have hlast : (List.range n).getLast? = some (n - 1) := by
    rw [List.getLast?_range, if_neg (by omega)]
  rw [← List.getLast?_map, map_key_synthesize, List.getLast?_map, hlast, Option.map_some,
    Nat.sub_self, stepKey_zero hinterval]

theorem ascending_synthesize (total : UInt64) (n : Nat) {interval : Int64} (now : Int64)
    (hinterval : 0 ≤ interval) :
    (synthesize total n interval now).buckets.Pairwise fun a b => a.key ≤ b.key := by
  refine List.pairwise_map.mp ?_
  rw [map_key_synthesize, List.pairwise_map]
  exact List.pairwise_lt_range.imp fun hij => stepKey_antitone hinterval (by omega)

theorem bucketSum_synthesize (total : UInt64) {n : Nat} (interval now : Int64) (hn : 0 < n) :
    (synthesize total n interval now).bucketSum = total := by
  have htotal : total.toNat < UInt64.size := total.toNat_lt
  refine UInt64.toNat_inj.mp ?_
  rw [Series.bucketSum, toNat_countSum, exactSum_synthesize total interval now hn]
  omega

/-! ### Settings -/

theorem milliseconds_nonneg (span : Duration) : 0 ≤ span.milliseconds := by
  have hmin := Int64.toInt_minValue
  have hmax := Int64.toInt_maxValue
  rw [Int64.le_iff_toInt_le, Duration.milliseconds, Number.toInt_ofIntClamp, Int64.toInt_zero]
  omega

theorem toNat_pos {n : UInt64} (hn : n ≠ 0) : 0 < n.toNat :=
  UInt64.lt_iff_toNat_lt.mp (UInt64.pos_iff_ne_zero.mpr hn)

/-! ### The series shown -/

/-- What the series shown for a histogram is like. -/
structure Presented (settings : Settings) (now : Int64) (parsed shown : Series) : Prop where
  dense : settings.minBuckets.toNat ≤ parsed.buckets.length → shown = parsed
  sparse : parsed.buckets.length < settings.minBuckets.toNat →
    shown.buckets.length = settings.syntheticBuckets.toNat ∧
      shown.buckets.getLast?.map (·.key) = some now
  nonempty : shown.buckets ≠ []
  ascending : shown.buckets.Pairwise fun a b => a.key ≤ b.key
  total : shown.total = parsed.total
  /-- The counts of the buckets add up to the total shown. -/
  bucketSum : shown.bucketSum = shown.total

variable {settings : Settings}

theorem normalize_of_dense {table : Table} (now : Int64)
    (hdense : settings.minBuckets.toNat ≤ (parse settings table).buckets.length) :
    normalize settings table now = parse settings table := by
  rw [normalize, isDense]
  exact if_pos (decide_eq_true hdense)

theorem normalize_of_sparse {table : Table} (now : Int64)
    (hsparse : (parse settings table).buckets.length < settings.minBuckets.toNat) :
    normalize settings table now = replacement settings (parse settings table) now := by
  rw [normalize, isDense]
  exact if_neg (by simpa using hsparse)

theorem buckets_ne_nil_of_dense {series : Series} (hmin : settings.minBuckets ≠ 0)
    (hdense : settings.minBuckets.toNat ≤ series.buckets.length) : series.buckets ≠ [] := by
  refine List.ne_nil_of_length_pos ?_
  have hpos := toNat_pos hmin
  omega

/-- A histogram with a bucket has the sum of the counts for its total. -/
theorem presented_parse {table : Table} (now : Int64) (hmin : settings.minBuckets ≠ 0)
    (hdense : settings.minBuckets.toNat ≤ (parse settings table).buckets.length) :
    Presented settings now (parse settings table) (parse settings table) where
  dense _ := rfl
  sparse hsparse := absurd hsparse (Nat.not_lt.mpr hdense)
  nonempty := buckets_ne_nil_of_dense hmin hdense
  ascending := ascending_tableBuckets table settings.timestampCandidates
  total := rfl
  bucketSum := (tableTotal_of_ne_nil table (buckets_ne_nil_of_dense hmin hdense)).symm

theorem presented_replacement {parsed : Series} (now : Int64)
    (hsynthetic : settings.syntheticBuckets ≠ 0)
    (hsparse : parsed.buckets.length < settings.minBuckets.toNat) :
    Presented settings now parsed (replacement settings parsed now) where
  dense hdense := absurd hsparse (Nat.not_lt.mpr hdense)
  sparse _ := ⟨length_synthesize _ _ _ _,
    getLast?_key_synthesize _ now (toNat_pos hsynthetic) (milliseconds_nonneg _)⟩
  nonempty := by
    refine List.ne_nil_of_length_pos ?_
    rw [replacement, length_synthesize]
    exact toNat_pos hsynthetic
  ascending := ascending_synthesize _ _ now (milliseconds_nonneg _)
  total := rfl
  bucketSum := bucketSum_synthesize _ _ now (toNat_pos hsynthetic)

/-- Under the settings of a configuration text, every table is shown with a bucket, with
    ascending keys, and with the total of its histogram. -/
theorem presented_normalize {text : String} {settings : TriggerCompose.Settings}
    (hsettings : Settings.ofText text = .ok settings) (table : Table) (now : Int64) :
    Presented settings.preview now (parse settings.preview table)
      (normalize settings.preview table now) := by
  obtain ⟨-, hsynthetic, hmin, -, -⟩ :=
    Settings.fault?_eq_none_iff.mp (Settings.fault?_preview_of_ofText hsettings)
  rcases Nat.lt_or_ge (parse settings.preview table).buckets.length
    settings.preview.minBuckets.toNat with hsparse | hdense
  · rw [normalize_of_sparse now hsparse]
    exact presented_replacement now hsynthetic hsparse
  · rw [normalize_of_dense now hdense]
    exact presented_parse now hmin hdense

theorem presented_normalize_no_rows : ∃ settings,
    Settings.ofText "preview.min_buckets = 3" = .ok settings ∧
      settings.preview = { Settings.standard with minBuckets := 3 } ∧
        Presented settings.preview 1700000000000 (parse settings.preview ⟨[], [], some 41⟩)
          (normalize settings.preview ⟨[], [], some 41⟩ 1700000000000) := by
  have hpreview : (TriggerCompose.Settings.ofText "preview.min_buckets = 3").toOption.map
      (·.preview) = some { Settings.standard with minBuckets := 3 } := by
    decide +kernel
  obtain ⟨settings, hsettings, hpreview⟩ := Option.map_eq_some_iff.mp hpreview
  have hsettings := Outcome.toOption_eq_some_iff.mp hsettings
  exact ⟨settings, hsettings, hpreview, presented_normalize hsettings _ _⟩

/-! ### The number of buckets -/

/-- How many buckets are shown for a histogram: as many as it has if they are enough, and
    otherwise the number of a synthesized series, be they enough or not. -/
structure Filled (settings : Settings) (parsed shown : Series) : Prop where
  dense : settings.minBuckets.toNat ≤ parsed.buckets.length →
    shown.buckets.length = parsed.buckets.length
  sparse : parsed.buckets.length < settings.minBuckets.toNat →
    shown.buckets.length = settings.syntheticBuckets.toNat
  enough : settings.minBuckets.toNat ≤ shown.buckets.length ↔
    settings.minBuckets.toNat ≤ parsed.buckets.length ∨
      settings.minBuckets.toNat ≤ settings.syntheticBuckets.toNat

theorem length_normalize_of_sparse {table : Table} (now : Int64)
    (hsparse : (parse settings table).buckets.length < settings.minBuckets.toNat) :
    (normalize settings table now).buckets.length = settings.syntheticBuckets.toNat := by
  rw [normalize_of_sparse now hsparse, replacement, length_synthesize]

theorem filled (settings : Settings) (table : Table) (now : Int64) :
    Filled settings (parse settings table) (normalize settings table now) where
  dense hdense := by rw [normalize_of_dense now hdense]
  sparse := length_normalize_of_sparse now
  enough := by
    rcases Nat.lt_or_ge (parse settings table).buckets.length settings.minBuckets.toNat with
      hsparse | hdense
    · rw [length_normalize_of_sparse now hsparse, or_iff_right (Nat.not_le.mpr hsparse)]
    · rw [normalize_of_dense now hdense, or_iff_left_of_imp fun _ => hdense]

theorem buckets_parse_no_rows (settings : Settings) :
    (parse settings ⟨[], [], none⟩).buckets = [] :=
  rfl

/-- Under the settings of a configuration text every table is shown with the least number of
    buckets just if a synthesized series has as many. -/
theorem filled_normalize {text : String} {settings : TriggerCompose.Settings}
    (hsettings : Settings.ofText text = .ok settings) :
    (∀ table now, Filled settings.preview (parse settings.preview table)
        (normalize settings.preview table now)) ∧
      ((∀ table now, settings.preview.minBuckets.toNat ≤
          (normalize settings.preview table now).buckets.length) ↔
        settings.preview.minBuckets.toNat ≤ settings.preview.syntheticBuckets.toNat) := by
  refine ⟨filled settings.preview, ?_, ?_⟩
  · intro henough
    -- A table without rows has too few buckets under all accepted settings.
    obtain ⟨-, -, hmin, -, -⟩ :=
      Settings.fault?_eq_none_iff.mp (Settings.fault?_preview_of_ofText hsettings)
    have hpos := toNat_pos hmin
    rcases (filled settings.preview ⟨[], [], none⟩ 0).enough.mp (henough _ _) with hparsed | hsynthetic
    · rw [buckets_parse_no_rows, List.length_nil] at hparsed
      omega
    · exact hsynthetic
  · intro hsynthetic table now
    exact (filled settings.preview table now).enough.mpr (.inr hsynthetic)

theorem exists_ofText {text : String} {preview : Settings}
    (h : (TriggerCompose.Settings.ofText text).toOption.map (·.preview) = some preview) :
    ∃ settings, TriggerCompose.Settings.ofText text = .ok settings ∧ settings.preview = preview := by
  obtain ⟨settings, hsettings, hpreview⟩ := Option.map_eq_some_iff.mp h
  exact ⟨settings, Outcome.toOption_eq_some_iff.mp hsettings, hpreview⟩

theorem filled_normalize_three : ∃ settings,
    Settings.ofText "preview.min_buckets = 3" = .ok settings ∧
      settings.preview = { Settings.standard with minBuckets := 3 } ∧
        ∀ table now, 3 ≤ (normalize settings.preview table now).buckets.length := by
  obtain ⟨settings, hsettings, hpreview⟩ :=
    @exists_ofText "preview.min_buckets = 3" { Settings.standard with minBuckets := 3 }
      (by decide +kernel)
  have henough := (filled_normalize hsettings).2.mpr (by rw [hpreview]; decide)
  have hmin : settings.preview.minBuckets.toNat = 3 := by
    rw [hpreview]
    rfl
  rw [hmin] at henough
  exact ⟨settings, hsettings, hpreview, henough⟩

/-- One synthetic bucket stands in for a table without rows, where two are the least number. -/
theorem sparse_replacement : ∃ settings,
    Settings.ofText "preview.synthetic_buckets = 1" = .ok settings ∧
      settings.preview.minBuckets = 2 ∧
        (normalize settings.preview ⟨[], [], some 5⟩ 0).buckets = [⟨0, 5⟩] ∧
          ¬ settings.preview.minBuckets.toNat ≤
            (normalize settings.preview ⟨[], [], some 5⟩ 0).buckets.length := by
  obtain ⟨settings, hsettings, hpreview⟩ :=
    @exists_ofText "preview.synthetic_buckets = 1" { Settings.standard with syntheticBuckets := 1 }
      (by decide +kernel)
  have hbuckets : (normalize settings.preview ⟨[], [], some 5⟩ 0).buckets = [⟨0, 5⟩] := by
    rw [hpreview]
    decide +kernel
  have hmin : settings.preview.minBuckets = 2 := by
    rw [hpreview]
    rfl
  refine ⟨settings, hsettings, hmin, hbuckets, ?_⟩
  rw [hbuckets, hmin]
  decide

end TriggerCompose.Preview
