import TriggerCompose.Preview.Histogram
import TriggerCompose.Preview.Settings
import TriggerCompose.Preview.Synthesis

/-!
# Normalized series

The series to show for a table: its histogram, or, if that has too few buckets to be
shown, a synthesized series with the same total.

## Main definitions

* `Preview.parse`: the histogram of a table under settings.
* `Preview.isDense`: a series has enough buckets.
* `Preview.normalize`: the series to show.
-/

namespace TriggerCompose.Preview

/-- The histogram of a table under settings. -/
def parse (settings : Settings) (table : Table) : Series :=
  histogram table settings.timestampCandidates

/-- A series that has the least number of buckets. -/
def isDense (settings : Settings) (series : Series) : Bool :=
  settings.minBuckets.toNat ≤ series.buckets.length

/-- The series that stands in for one with too few buckets. -/
def replacement (settings : Settings) (series : Series) (now : Int64) : Series :=
  synthesize series.total settings.syntheticBuckets.toNat settings.span.milliseconds now

/-- The series to show for a table at the time `now`. -/
def normalize (settings : Settings) (table : Table) (now : Int64) : Series :=
  let parsed := parse settings table
  if isDense settings parsed then parsed else replacement settings parsed now

end TriggerCompose.Preview
