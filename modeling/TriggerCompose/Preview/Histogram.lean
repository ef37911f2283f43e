import TriggerCompose.Preview.Columns
import TriggerCompose.Preview.Series

/-!
# Histograms of tables

The series that a table holds. Every row with a readable key gives a bucket; a row
without one is dropped.

## Main definitions

* `Preview.Layout`: the positions of the two columns.
* `Preview.Layout.bucket?`: the bucket of a row.
* `Preview.histogram`: the series of a table.
-/

namespace TriggerCompose.Preview

/-- The positions of the key column and the count column of a schema. -/
structure Layout where
  key : Nat
  count : Nat
  deriving DecidableEq, Repr

namespace Layout

/-- The layout of a schema, if it has both columns. -/
def ofSchema? (schema : List Column) (candidates : List String) : Option Layout := do
  let key ← keyColumn? schema candidates
  let count ← countColumn? schema (some key)
  return { key, count }

/-- The bucket of a row, if its key can be read. A count that cannot be read is
    zero. -/
def bucket? (layout : Layout) (row : List Json) : Option Bucket := do
  let key ← row[layout.key]?.bind Cell.key?
  return { key, docCount := (row[layout.count]?.bind Cell.count?).getD 0 }

end Layout

/-- Buckets in ascending order of their keys; those of one key stay in order. -/
def sortBuckets (buckets : List Bucket) : List Bucket :=
  buckets.mergeSort fun a b => decide (a.key ≤ b.key)

/-- The buckets of the rows of a table in ascending order. Without both columns there
    are none. -/
def tableBuckets (table : Table) (candidates : List String) : List Bucket :=
  match Layout.ofSchema? table.schema candidates with
  | some layout => sortBuckets (table.rows.filterMap layout.bucket?)
  | none => []

/-- The total of a table with the given buckets: the sum of their counts; without
    buckets, the explicit total; and without that, the number of rows. -/
def tableTotal (table : Table) (buckets : List Bucket) : UInt64 :=
  if buckets.isEmpty then table.total?.getD (UInt64.ofNat table.rows.length)
  else countSum buckets

/-- The series of a table. -/
def histogram (table : Table) (candidates : List String) : Series :=
  let buckets := tableBuckets table candidates
  { buckets, total := tableTotal table buckets }

end TriggerCompose.Preview
