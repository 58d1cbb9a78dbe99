import MetricRelay.Diagnostic
import MetricRelay.Number.Numeral

/-!
# Histogram snapshots

A histogram library reports running totals.  A `Tracker` turns them into what is to be sent:
either the totals as they are, or the change since the snapshot before.  A count that went down
means that the histogram started anew, so the whole snapshot is the change.  Buckets are
compared by position and only while their bounds stay the same; after a change of layout the
new counts are reported unchanged.
-/

namespace MetricRelay

/-- The number of observations up to a bound, which may be an estimate and no whole number. -/
structure Bucket where
  upperBound : Binary64
  count : Binary64
deriving DecidableEq, Repr

/-- The state of a histogram at a moment. -/
structure Snapshot where
  count : UInt64 := 0
  total : Binary64 := .zero
  max : Binary64 := .zero
  buckets : List Bucket := []
deriving DecidableEq, Repr

/-- Turns running totals into what is to be sent. -/
inductive Tracker where
  | passthrough
  | delta (baseline : Snapshot)
deriving DecidableEq, Repr

namespace Tracker

/-- A tracker of changes that has seen nothing yet. -/
def newDelta : Tracker := .delta {}

def isDelta : Tracker → Bool
  | .passthrough => false
  | .delta _ => true

/-- Both lists have the same bounds in the same order. -/
def sameLayout (previous current : List Bucket) : Bool :=
  previous.length == current.length &&
    (previous.zip current).all fun (p, c) => p.upperBound.numEq c.upperBound

/-- The change of the bucket counts. -/
def bucketsSince (previous current : List Bucket) : List Bucket × List Diagnostic :=
  if previous.isEmpty then (current, [])
  else if sameLayout previous current then
    (List.zipWith (fun p c => ⟨c.upperBound, c.count.sub p.count⟩) previous current, [])
  else
    (current, [⟨.debug, "Histogram bucket layout changed. Reporting current buckets unchanged.",
      [("previous_buckets", toString previous.length),
       ("current_buckets", toString current.length)]⟩])

/-- The change from one snapshot to the next. -/
def since (previous current : Snapshot) : Snapshot × List Diagnostic :=
  if current.count < previous.count then
    (current, [⟨.debug, "Histogram count went backwards. Treating it as a reset.",
      [("previous_count", toString previous.count),
       ("current_count", toString current.count)]⟩])
  else
    let (buckets, log) := bucketsSince previous.buckets current.buckets
    (⟨current.count - previous.count, current.total.sub previous.total, current.max, buckets⟩,
      log)

/-- What is to be sent for a snapshot, and the tracker afterwards.  A tracker of changes takes
every snapshot as its new baseline. -/
def next : Tracker → Snapshot → Tracker × Snapshot × List Diagnostic
  | .passthrough, current => (.passthrough, current, [])
  | .delta baseline, current => (.delta current, since baseline current)

end Tracker

end MetricRelay
