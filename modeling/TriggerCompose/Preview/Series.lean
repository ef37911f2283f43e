import TriggerCompose.Json.Record

/-!
# Histogram series

Counts of documents by time: buckets, and the total that they stand for.

## Main definitions

* `Preview.Bucket`: a start time and a count.
* `Preview.Series`: buckets and a total.
* `Preview.countSum`: the sum of the counts, cut off at the largest word.
* `Preview.Series.toJson`, `Preview.Bucket.ofDocument?`: the series as JSON.
-/

namespace TriggerCompose.Preview

/-- A bucket: its start in milliseconds since the epoch, and how many documents fall
    into it. -/
structure Bucket where
  key : Int64
  docCount : UInt64
  deriving DecidableEq, Repr, Inhabited

/-- A histogram: buckets in ascending order of their keys, and the total that they
    represent. -/
structure Series where
  buckets : List Bucket
  total : UInt64
  deriving DecidableEq, Repr, Inhabited

/-- A sum of two counts, at most the largest word. -/
def addCounts (a b : UInt64) : UInt64 :=
  UInt64.ofNatClamp (a.toNat + b.toNat)

/-- The sum of the counts of buckets, at most the largest word. -/
def countSum (buckets : List Bucket) : UInt64 :=
  buckets.foldl (fun sum bucket => addCounts sum bucket.docCount) 0

/-- The sum of the counts of a series. -/
def Series.bucketSum (s : Series) : UInt64 :=
  countSum s.buckets

namespace Bucket

/-- The JSON of a bucket. -/
def toJson (b : Bucket) : Json :=
  .object [("key", .number (.ofInt64 b.key)), ("docCount", .number (.ofUInt64 b.docCount))]

/-- A bucket of a JSON document. -/
def ofDocument? (document : Json.Document) : Option Bucket := do
  let record ← Json.Record.ofDocument? ["key", "docCount"] document
  let key ← record.required "key" Json.Document.int64?
  let docCount ← record.required "docCount" Json.Document.uint64?
  return { key, docCount }

end Bucket

/-- The JSON of a series. -/
def Series.toJson (s : Series) : Json :=
  .object [("buckets", .array (s.buckets.map Bucket.toJson)),
    ("total", .number (.ofUInt64 s.total))]

end TriggerCompose.Preview
