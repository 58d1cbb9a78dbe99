import MetricRelay.Text.Utf8

/-!
# Compressed bodies

A body is sent as it is, or as the gzip member that a `Compressor` makes of it.  Compressors are
not written here: a sender is given one, which may fail, and whatever else is known of it is an
assumption of the theorem that needs it.
-/

namespace MetricRelay

/-- Makes a gzip member of a content, or tells why it cannot. -/
abbrev Compressor := Bytes → Except String Bytes

/-- How a body is sent. -/
inductive Compression where
  | none
  | gzip (compressor : Compressor)

namespace Compression

def ofEnabled (gzip : Compressor) (enabled : Bool) : Compression :=
  if enabled then .gzip gzip else .none

/-- The name under which the receiver is told. -/
def contentEncoding : Compression → Option String
  | .none => Option.none
  | .gzip _ => some "gzip"

/-- The body for a content, or the reason why there is none. -/
def compress : Compression → Bytes → Except String Bytes
  | .none, content => .ok content
  | .gzip compressor, content => compressor content

end Compression

end MetricRelay
