import MetricRelay.Metric.Point

/-!
# Payload formats

Points travel in one of two formats.  Encoding fails only on a value that the format cannot
write; decoding fails on bytes that do not parse, and on records that describe no point.
-/

namespace MetricRelay

inductive Format where
  | json
  | protobuf
deriving DecidableEq, Repr

/-- The media type of payloads in the format. -/
def Format.contentType : Format → String
  | .json => "application/json"
  | .protobuf => "application/x-protobuf"

/-- Why points were not encoded. -/
inductive EncodeError where
  | nonFiniteValue (metric : String)
deriving DecidableEq, Repr

def EncodeError.message : EncodeError → String
  | .nonFiniteValue metric =>
    s!"Metric '{metric}' has a non-finite value, which cannot be encoded."

/-- Why a payload was not decoded. -/
inductive DecodeError where
  | protobuf
  | json
  | missingValue (metric : String)
  | unsupportedMetricType (metric : String) (metricType : Int32)
  | invalidPoint (cause : PointError)
deriving DecidableEq, Repr

def DecodeError.message : DecodeError → String
  | .protobuf => "Failed to decode protobuf payload."
  | .json => "Failed to decode JSON payload."
  | .missingValue metric => s!"Record for metric '{metric}' has no numeric value."
  | .unsupportedMetricType metric metricType =>
    s!"Record for metric '{metric}' has unsupported metric type {intText metricType.toInt}."
  | .invalidPoint _ => "Record describes an invalid point."

/-- The result of building a point from a record. -/
def DecodeError.ofBuild : Except PointError Point → Except DecodeError Point
  | .ok p => .ok p
  | .error e => .error (.invalidPoint e)

end MetricRelay
