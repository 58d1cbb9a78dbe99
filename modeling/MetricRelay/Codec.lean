import MetricRelay.Codec.JsonPayload
import MetricRelay.Codec.ProtobufPayload

/-!
# Encoding and decoding points

`Format.encode` and `Format.decode` go between lists of points and bytes, and `transcode`
carries a payload from one format to the other.
-/

namespace MetricRelay

/-- The bytes of a list of points. -/
def Format.encode : Format → List Point → Except EncodeError Bytes
  | .json, points => JsonPayload.encode points
  | .protobuf, points => .ok (ProtobufPayload.encode points)

/-- The points that bytes describe. -/
def Format.decode : Format → Bytes → Except DecodeError (List Point)
  | .json, bs => JsonPayload.decode bs
  | .protobuf, bs => ProtobufPayload.decode bs

/-- Why a payload was not carried over. -/
inductive TranscodeError where
  | decoding (cause : DecodeError)
  | encoding (cause : EncodeError)
deriving DecidableEq, Repr

/-- A payload in another format. -/
def transcode (source target : Format) (bs : Bytes) : Except TranscodeError Bytes :=
  match source.decode bs with
  | .error e => .error (.decoding e)
  | .ok points =>
    match target.encode points with
    | .error e => .error (.encoding e)
    | .ok bs => .ok bs

end MetricRelay
