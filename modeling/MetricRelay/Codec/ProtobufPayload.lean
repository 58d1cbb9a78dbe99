import MetricRelay.Codec.Format
import MetricRelay.Protobuf.Wire

/-!
# Protobuf payloads

A payload is a message of records.  A record has its source, metric, timestamp, value, metric
type and dimensions under the field numbers 1 to 6; the value is a message of its own with a
text, a number and an integer, of which a point uses the last two.

Reading takes fields in any order and any number.  A later value of a plain field replaces an
earlier one, a later value message is merged into the earlier one, records and dimensions are
collected, and fields with other numbers are ignored.  A field with a known number has to have
the form that belongs to it.
-/

namespace MetricRelay
namespace ProtobufPayload

open Wire (Field)

/-- A key and value of a record. -/
structure Dimension where
  key : Option String := none
  value : Option String := none

/-- The value of a record. -/
structure Datum where
  text : Option String := none
  double : Option Binary64 := none
  int : Option Int64 := none

/-- A record as it stands in the payload: everything in it may be missing. -/
structure Record where
  source : Option String := none
  metric : Option String := none
  timestamp : Option Int64 := none
  value : Option Datum := none
  metricType : Option Int32 := none
  dimensions : List Dimension := []

/-! ### Writing -/

def textField (number : Nat) (s : String) : Field := ⟨number, .bytes (Utf8.encode s)⟩

def messageField (number : Nat) (fs : List Field) : Field := ⟨number, .bytes (Wire.encode fs)⟩

/-- The number of a kind among the metric types. -/
def typeCode : Kind → Int32
  | .gauge => 0
  | .counter => 1
  | .cumulativeCounter => 3

/-- The kind of a metric type.  There are metric types that are no kind of point. -/
def kindOfType? (t : Int32) : Option Kind :=
  if t = 0 then some .gauge
  else if t = 1 then some .counter
  else if t = 3 then some .cumulativeCounter
  else none

def valueField : Value → Field
  | .float x => ⟨2, .fixed64 x.bits⟩
  | .int i => ⟨3, .varint i.toUInt64⟩

def dimensionFields (key value : String) : List Field := [textField 1 key, textField 2 value]

/-- A source is written even if it is empty. -/
def sourceFields : Option String → List Field
  | none => []
  | some s => [textField 1 s]

/-- A timestamp is written only if it is not zero. -/
def timestampFields (t : Int64) : List Field := if t = 0 then [] else [⟨3, .varint t.toUInt64⟩]

/-- The fields of the record of a point, in the order of their numbers. -/
def recordFields (p : Point) : List Field :=
  sourceFields p.source ++ textField 2 p.name :: timestampFields p.timestampMs ++
    [messageField 4 [valueField p.value], ⟨5, .varint (typeCode p.kind).toInt64.toUInt64⟩] ++
    p.dimensions.map fun (k, v) => messageField 6 (dimensionFields k v)

/-- The bytes of a list of points. -/
def encode (points : List Point) : Bytes :=
  Wire.encode (points.map fun p => messageField 1 (recordFields p))

/-! ### Reading -/

/-- How deep groups may nest in the payload itself; each message inside allows one less. -/
def groupLimit : Nat := 100

/-- The text of a field. -/
def text? : Wire.Payload → Option String
  | .bytes bs => Utf8.decode? bs
  | _ => none

/-- The signed 64-bit integer of a field. -/
def int64? : Wire.Payload → Option Int64
  | .varint n => some n.toInt64
  | _ => none

/-- The message of a field, merged field by field into a message read before. -/
def merge? {α : Type} (limit : Nat) (step : α → Field → Option α) (start : α) :
    Wire.Payload → Option α
  | .bytes bs => do
    let fs ← Wire.fields? limit bs
    fs.foldlM step start
  | _ => none

def Dimension.step (d : Dimension) (f : Field) : Option Dimension :=
  match f.number with
  | 1 => do return { d with key := ← text? f.payload }
  | 2 => do return { d with value := ← text? f.payload }
  | _ => some d

def Datum.step (d : Datum) (f : Field) : Option Datum :=
  match f.number with
  | 1 => do return { d with text := ← text? f.payload }
  | 2 =>
    match f.payload with
    | .fixed64 n => some { d with double := some ⟨n⟩ }
    | _ => none
  | 3 => do return { d with int := ← int64? f.payload }
  | _ => some d

def Record.step (r : Record) (f : Field) : Option Record :=
  match f.number with
  | 1 => do return { r with source := ← text? f.payload }
  | 2 => do return { r with metric := ← text? f.payload }
  | 3 => do return { r with timestamp := ← int64? f.payload }
  | 4 => do
    let datum ← merge? (groupLimit - 2) Datum.step (r.value.getD {}) f.payload
    return { r with value := some datum }
  | 5 =>
    match f.payload with
    | .varint n => some { r with metricType := some n.toUInt32.toInt32 }
    | _ => none
  | 6 => do
    let dimension ← merge? (groupLimit - 2) Dimension.step {} f.payload
    return { r with dimensions := r.dimensions ++ [dimension] }
  | _ => some r

/-- The record in a field of the payload; fields with other numbers hold none. -/
def record? (f : Field) : Option (Option Record) :=
  if f.number = 1 then some <$> merge? (groupLimit - 1) Record.step {} f.payload else some none

/-- The records of a payload. -/
def records? (bs : Bytes) : Option (List Record) := do
  let fs ← Wire.fields? groupLimit bs
  let records ← fs.mapM record?
  return records.filterMap id

/-- The value of a record: its integer, or else its number. -/
def Datum.value? (d : Datum) : Option Value :=
  match d.int, d.double with
  | some i, _ => some (.int i)
  | none, some x => some (.float x)
  | none, none => none

/-- The point that a record describes; a value that is not finite is allowed. -/
def Record.point (r : Record) : Except DecodeError Point :=
  let name := r.metric.getD ""
  let metricType := r.metricType.getD 0
  match r.value.bind Datum.value?, kindOfType? metricType with
  | none, _ => .error (.missingValue name)
  | some _, none => .error (.unsupportedMetricType name metricType)
  | some value, some kind =>
    DecodeError.ofBuild <| Point.Draft.build
      { name, kind, value
        source := r.source
        dimensions := r.dimensions.map fun d => (d.key.getD "", d.value.getD "")
        timestampMs := r.timestamp.getD 0
        allowsNonFinite := true }

/-- The points that bytes describe.  A payload is parsed as a whole before the first point is
built. -/
def decode (bs : Bytes) : Except DecodeError (List Point) :=
  match records? bs with
  | none => .error .protobuf
  | some records => records.mapM Record.point

end ProtobufPayload
end MetricRelay
