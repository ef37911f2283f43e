import TriggerCompose.Preview.Series

/-!
# Synthesized series

A series for a total alone. The total is spread over a number of buckets so that
later buckets weigh more, and the counts add up to it exactly.

## Main definitions

* `Preview.share`: the rounded share of one bucket.
* `Preview.reconcile`: counts corrected for the errors of rounding.
* `Preview.stepKey`: the key of a bucket some steps before the newest.
* `Preview.synthesize`: the series.
-/

namespace TriggerCompose.Preview

/-- The sum of the weights `1` to `n` of `n` buckets. -/
def weightSum (n : Nat) : Nat :=
  n * (n + 1) / 2

/-- The share of `total` that the bucket of a weight has among `n` buckets, rounded to
    the nearest whole number, a half going up. -/
def share (total n weight : Nat) : Nat :=
  (2 * (total * weight) + weightSum n) / (2 * weightSum n)

/-- The shares of `n` buckets, the oldest first. -/
def shares (total : UInt64) (n : Nat) : List UInt64 :=
  (List.range n).map fun i => UInt64.ofNatClamp (share total.toNat n (i + 1))

/-- The exact sum of counts. -/
def exactSum (counts : List UInt64) : Nat :=
  counts.foldr (fun count sum => count.toNat + sum) 0

/-- Adds to the last of some counts. -/
def addToLast (missing : Nat) : List UInt64 → List UInt64
  | [] => []
  | [count] => [addCounts count (UInt64.ofNat missing)]
  | count :: rest => count :: addToLast missing rest

/-- Takes an excess away from some counts, from the last one as much as it has, then
    from the one before it, and so on. Gives what could not be taken away, and the
    counts that are left. -/
def takeFromEnd (excess : Nat) : List UInt64 → Nat × List UInt64
  | [] => (excess, [])
  | count :: rest =>
    let (excess, rest) := takeFromEnd excess rest
    let taken := min excess count.toNat
    (excess - taken, UInt64.ofNat (count.toNat - taken) :: rest)

/-- Counts corrected to add up to a total: what is missing goes to the last one, and
    what is too much is taken away from the end. -/
def reconcile (counts : List UInt64) (total : UInt64) : List UInt64 :=
  let sum := exactSum counts
  if sum < total.toNat then addToLast (total.toNat - sum) counts
  else (takeFromEnd (sum - total.toNat) counts).2

/-- The key of the bucket some steps before the newest one, which is at `now`. The
    distance and the key are cut off at the ends of the signed words. -/
def stepKey (now interval : Int64) (steps : Nat) : Int64 :=
  let steps : Int := min steps Int64.maxValue.toInt
  let distance := Int64.ofIntClamp (interval.toInt * steps)
  Int64.ofIntClamp (now.toInt - distance.toInt)

/-- A series of `n` buckets for a total. The newest bucket is at `now`, and each is an
    interval after the one before it. -/
def synthesize (total : UInt64) (n : Nat) (interval now : Int64) : Series :=
  let counts := reconcile (shares total n) total
  { buckets := counts.zipIdx.map fun (docCount, i) =>
      { key := stepKey now interval (n - 1 - i), docCount }
    total }

end TriggerCompose.Preview
