import MetricRelay.Metric.Histogram
import MetricRelay.Sender.Basic

/-!
# Sessions

A session gathers the values of series before they go to a sender as one unit.  A series is a
metric of a source with its dimensions, and has one value in a session: increments of a counter
are summed, and any other value takes the place of the one before.

Nothing is dated until the session is closed; `Session.close` gives the points, one for each
series in ascending order, with one timestamp.
-/

namespace MetricRelay

/-- What a value in a session belongs to. -/
structure Series where
  source : String
  name : String
  dimensions : Dimensions
deriving DecidableEq, Repr

/-- By source, then by name, then by dimensions. -/
instance : Ord Series :=
  ⟨fun a b =>
    ((compare a.source b.source).then (compare a.name b.name)).then
      (List.compareLex (fun d e => (compare d.1 e.1).then (compare d.2 e.2))
        a.dimensions b.dimensions)⟩

/-- The values of series on their way to a sender. -/
structure Session where
  /-- The source of values that do not name one. -/
  defaultSource : String
  entries : List (Series × Kind × Value) := []
  isClosed : Bool := false
deriving DecidableEq, Repr

namespace Session

def length (s : Session) : Nat := s.entries.length

/-- The value of a series after one more is written: increments of a counter are summed. -/
def merge (previous : Option (Kind × Value)) (kind : Kind) (value : Value) : Value :=
  match previous, kind with
  | some (.counter, sum), .counter => sum.accumulate value
  | _, _ => value

/-- Writes a value to a series, which has to make a point. -/
def put (s : Session) (source name : String) (kind : Kind) (value : Value)
    (dimensions : List (String × String)) : Except SenderError Session :=
  if s.isClosed then .error .sessionClosed
  else
    let draft : Point.Draft := { name, kind, value, source := some source, dimensions }
    match draft.build with
    | .error e => .error (.invalidPoint e)
    | .ok point =>
      let series : Series := ⟨source, point.name, point.dimensions⟩
      let value := merge (Keyed.get? series s.entries) kind value
      .ok { s with entries := Keyed.put series (kind, value) s.entries }

/-! ### Distributions -/

/-- How the upper bound of a bucket is written as a dimension. -/
def boundText (x : Binary64) : String :=
  if x.isInfinite && !x.isNegative then "+Inf" else x.plainText

/-- What a snapshot writes for a metric: the count, the sum, the greatest value, and one series
for each bucket. -/
def writes (name : String) (kind : Kind) (snapshot : Snapshot)
    (dimensions : List (String × String)) :
    List (String × Kind × Value × List (String × String)) :=
  let count := Int64.ofInt (min snapshot.count.toNat Int64.maxValue.toInt)
  [(name ++ ".count", kind, .int count, dimensions),
    (name ++ ".sum", kind, .float snapshot.total, dimensions),
    (name ++ ".max", .gauge, .float snapshot.max, dimensions)] ++
  snapshot.buckets.map fun b =>
    (name ++ ".bucket", kind, .float b.count,
      dimensions ++ [("upper_bound", boundText b.upperBound)])

/-- Writes values one after the other, up to the first one that is refused. -/
def putAll (s : Session) :
    List (String × Kind × Value × List (String × String)) →
      Session × Except SenderError Unit
  | [] => (s, .ok ())
  | (name, kind, value, dimensions) :: rest =>
    match s.put s.defaultSource name kind value dimensions with
    | .error e => (s, .error e)
    | .ok s => s.putAll rest

/-- All numbers of a snapshot but the bounds are finite. -/
def isFinite (snapshot : Snapshot) : Bool :=
  snapshot.total.isFinite && snapshot.max.isFinite &&
    snapshot.buckets.all (·.count.isFinite)

/-- Records a snapshot of a histogram as its tracker tells it.  The tracker has seen the
snapshot even if it is refused. -/
def recordDistribution (s : Session) (name : String) (tracker : Tracker) (snapshot : Snapshot)
    (dimensions : List (String × String)) :
    Session × Tracker × List Diagnostic × Except SenderError Unit :=
  if s.isClosed then (s, tracker, [], .error .sessionClosed)
  else
    let kind := if tracker.isDelta then .counter else .cumulativeCounter
    let (tracker, emitted, log) := tracker.next snapshot
    if isFinite emitted then
      let (s, result) := s.putAll (writes name kind emitted dimensions)
      (s, tracker, log, result)
    else (s, tracker, log, .error (.invalidPoint (.nonFiniteValue name)))

/-! ### Closing -/

/-- The point of an entry. -/
def pointOf (timestampMs : Int64) : Series × Kind × Value → Except PointError Point
  | (series, kind, value) =>
    ({ name := series.name, kind, value, source := some series.source
       dimensions := series.dimensions, timestampMs } : Point.Draft).build

/-- Closes a session, at a time, and gives the points to be submitted as a unit.  There are none
if it was closed before. -/
def close (s : Session) (timestampMs : Int64) : Session × Except SenderError (List Point) :=
  if s.isClosed then (s, .ok [])
  else
    ({ s with entries := [], isClosed := true },
      match s.entries.mapM (pointOf timestampMs) with
      | .ok points => .ok points
      | .error e => .error (.invalidPoint e))

end Session

end MetricRelay
