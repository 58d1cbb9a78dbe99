import MetricRelay.Codec.Format
import MetricRelay.Json.Parser

/-!
# JSON payloads

A payload is an object with a list of records for each kind of point; a kind without points is
left out.  A record names its metric and value, and where they are present its dimensions,
timestamp and source.  A whole double-precision number is written with a fraction and an integer
without one, so reading tells the two apart again.

Reading is more generous than writing: members come in any order, unknown members are ignored
whatever they hold, and both objects may be written as arrays of their members in order.
-/

namespace MetricRelay
namespace JsonPayload

/-- Exponents from -5 to 15 are written positionally. -/
def numberLayout : Layout := ⟨some (-5, 15), true, .toEven⟩

/-! ### Writing -/

/-- The numeral of a finite value. -/
def valueNumeral : Value → Numeral
  | .int i => Numeral.ofInt i.toInt
  | .float x => numberLayout.numeral x

/-- The dimensions, unless there are none. -/
def dimensionsPart (ds : Dimensions) : Option Json :=
  if ds.isEmpty then none else some (.ofMembers (ds.map fun (k, v) => (k, .ofString v)))

/-- The timestamp, unless it is zero. -/
def timestampPart (t : Int64) : Option Json := if t = 0 then none else some (.ofInt t.toInt)

/-- The parts of a record, by their names. -/
def recordParts (p : Point) : List (String × Option Json) := [
  ("metric", some (.ofString p.name)),
  ("value", some (.number (valueNumeral p.value))),
  ("dimensions", dimensionsPart p.dimensions),
  ("timestamp", timestampPart p.timestampMs),
  ("source", p.source.map .ofString)]

/-- The record of a point. -/
def record (p : Point) : Json := .ofPresent (recordParts p)

/-- The kinds in the order in which a payload lists them, with the names of their lists. -/
def kinds : List (String × Kind) :=
  [("gauge", .gauge), ("counter", .counter), ("cumulative_counter", .cumulativeCounter)]

/-- The records of the points of a kind, unless there are none. -/
def kindPart (points : List Point) (kind : Kind) : Option Json :=
  match points.filter (·.kind = kind) with
  | [] => none
  | ps => some (.array (ps.map record))

/-- The parts of a payload, by their names. -/
def payloadParts (points : List Point) : List (String × Option Json) :=
  kinds.map fun (name, kind) => (name, kindPart points kind)

/-- The payload of a list of points. -/
def payload (points : List Point) : Json := .ofPresent (payloadParts points)

/-- The bytes of a list of points; the first value that is not finite is refused. -/
def encode (points : List Point) : Except EncodeError Bytes :=
  match points.find? (!·.value.isFinite) with
  | some p => .error (.nonFiniteValue p.name)
  | none => .ok (payload points).print

/-! ### Reading -/

/-- The named values of an object that may also be written as the array of its values in order.
A name is given at most once; values under other names are ignored, though their names have to
be text. -/
def named? (names : List String) : Json → Option (List (String × Json))
  | .object members => do
    let members ← members.mapM fun (name, value) => (·, value) <$> name.decode?
    let known := members.filter (names.contains ·.1)
    if (known.map (·.1)).Nodup then some known else none
  | .array items => if items.length ≤ names.length then some (names.zip items) else none
  | _ => none

def text? : Json → Option String
  | .string t => t.decode?
  | _ => none

/-- An integral numeral in the range of a signed 64-bit integer; there is no negative zero. -/
def int64? (n : Numeral) : Option Int64 :=
  let i := n.toInt
  if n.isIntegral ∧ ¬(n.isNegative ∧ i = 0) ∧
      Int64.minValue.toInt ≤ i ∧ i ≤ Int64.maxValue.toInt then
    some (Int64.ofInt i)
  else none

/-- A value: an integer if it is one and in range, or else the nearest number if that is
finite. -/
def value? : Json → Option Value
  | .number n =>
    match int64? n with
    | some i => some (.int i)
    | none =>
      let x := n.toBinary64
      if x.isFinite then some (.float x) else none
  | _ => none

/-- A timestamp; none stands for zero. -/
def timestamp? : Json → Option Int64
  | .null => some 0
  | .number n => int64? n
  | _ => none

/-- A source, or none. -/
def source? : Json → Option (Option String)
  | .null => some none
  | j => some <$> text? j

/-- The dimensions; of a repeated key the last value stays. -/
def dimensions? : Json → Option Dimensions
  | .object members =>
    Keyed.ofList <$> members.mapM fun (key, value) => return (← key.decode?, ← text? value)
  | _ => none

/-- Reads a value, or takes the default if it is not there. -/
def orDefault {α : Type} (read : Json → Option α) (default : α) : Option Json → Option α
  | none => some default
  | some j => read j

/-- The draft of a point of some kind that a record describes. -/
def draft? (kind : Kind) (j : Json) : Option Point.Draft := do
  let values ← named? ["metric", "value", "dimensions", "timestamp", "source"] j
  let name ← values.lookup "metric" >>= text?
  let value ← values.lookup "value" >>= value?
  let dimensions ← orDefault dimensions? [] (values.lookup "dimensions")
  let timestampMs ← orDefault timestamp? 0 (values.lookup "timestamp")
  let source ← orDefault source? none (values.lookup "source")
  return { name, kind, value, source, dimensions, timestampMs }

/-- The drafts of one kind. -/
def drafts? (kind : Kind) : Json → Option (List Point.Draft)
  | .array items => items.mapM (draft? kind)
  | _ => none

/-- The drafts of a payload, kind by kind. -/
def payload? (j : Json) : Option (List Point.Draft) := do
  let values ← named? (kinds.map (·.1)) j
  let lists ← kinds.mapM fun (name, kind) => orDefault (drafts? kind) [] (values.lookup name)
  return lists.flatten

/-- The points that bytes describe.  A payload is parsed as a whole before the first point is
built. -/
def decode (bs : Bytes) : Except DecodeError (List Point) :=
  match Json.parse? bs >>= payload? with
  | none => .error .json
  | some drafts => drafts.mapM fun d => DecodeError.ofBuild d.build

end JsonPayload
end MetricRelay
