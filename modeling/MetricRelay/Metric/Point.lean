import MetricRelay.Keyed
import MetricRelay.Metric.Value

/-!
# Metric points

A point is built from a draft.  Building refuses an empty name, a value that is not finite
unless the draft allows it, and dimensions with an empty or a repeated key; of several faults
the first in this order is reported.  The dimensions of a point stand in ascending key order,
so the order in which a draft lists them does not matter.
-/

namespace MetricRelay

abbrev Dimensions := List (String × String)

/-- One measurement of one metric. -/
structure Point where
  name : String
  kind : Kind
  value : Value
  source : Option String
  dimensions : Dimensions
  timestampMs : Int64
deriving DecidableEq, Repr

/-- What a point is built from. -/
structure Point.Draft where
  name : String
  kind : Kind
  value : Value
  source : Option String := none
  dimensions : List (String × String) := []
  timestampMs : Int64 := 0
  allowsNonFinite : Bool := false

/-- Why a draft is no point. -/
inductive PointError where
  | emptyName
  | emptyDimensionKey (metric : String)
  | duplicateDimensionKey (metric key : String)
  | nonFiniteValue (metric : String)
deriving DecidableEq, Repr

def PointError.message : PointError → String
  | .emptyName => "Metric name must not be empty."
  | .emptyDimensionKey metric => s!"Dimension keys must not be empty (metric '{metric}')."
  | .duplicateDimensionKey metric key =>
    s!"Dimension key '{key}' was given more than once (metric '{metric}')."
  | .nonFiniteValue metric => s!"Metric '{metric}' has a non-finite value."

namespace Point.Draft

/-- Adds the dimensions one by one; `metric` is the name for error reports. -/
def addDimensions (metric : String) :
    Dimensions → List (String × String) → Except PointError Dimensions
  | ds, [] => .ok ds
  | ds, (key, value) :: rest =>
    if key.isEmpty then .error (.emptyDimensionKey metric)
    else if (Keyed.get? key ds).isSome then .error (.duplicateDimensionKey metric key)
    else addDimensions metric (Keyed.put key value ds) rest

/-- The point that a draft describes. -/
def build (d : Draft) : Except PointError Point :=
  if d.name.isEmpty then .error .emptyName
  else if !d.value.isFinite && !d.allowsNonFinite then .error (.nonFiniteValue d.name)
  else do
    let dimensions ← addDimensions d.name [] d.dimensions
    return ⟨d.name, d.kind, d.value, d.source, dimensions, d.timestampMs⟩

end Point.Draft

end MetricRelay
