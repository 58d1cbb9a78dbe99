import MetricRelay.Text.Utf8

/-!
# Tagged binary fields

A protobuf message is a sequence of fields.  A field is a key, which holds its number and the
form of its payload, and the payload.  This module reads and writes fields without knowing what
their numbers mean: `Wire.fields?` gives the fields of a message in order, with nested messages
as bytes, and drops what stands inside groups.

Groups may nest only to a limit.  Reading keeps the numbers of the open groups in a list, so
the limit is one on the length of that list.
-/

namespace MetricRelay
namespace Wire

/-! ### Integers -/

/-- Groups of seven bits, the least significant first; every byte but the last has its high bit
set.  `more` bytes may still follow. -/
def varintBytes : Nat → Nat → Bytes
  | 0, n => [n.toUInt8]
  | more + 1, n =>
    if n < 128 then [n.toUInt8] else (n % 128 + 128).toUInt8 :: varintBytes more (n / 128)

/-- A 64-bit number in as few bytes as it needs. -/
def varint (n : UInt64) : Bytes := varintBytes 9 n.toNat

/-- A number in at most the given number of bytes. -/
def varintWithin? : Nat → Bytes → Option (Nat × Bytes)
  | 0, _ => none
  | _ + 1, [] => none
  | more + 1, b :: rest =>
    if b < 128 then some (b.toNat, rest)
    else do
      let (n, rest) ← varintWithin? more rest
      return (b.toNat - 128 + 128 * n, rest)

/-- A 64-bit number of at most ten bytes; it may have more of them than it needs. -/
def varint? (bs : Bytes) : Option (UInt64 × Bytes) := do
  let (n, rest) ← varintWithin? 10 bs
  if n < UInt64.size then some (n.toUInt64, rest) else none

/-- The lowest `count` bytes of a number, the least significant first. -/
def littleEndian : Nat → Nat → Bytes
  | 0, _ => []
  | count + 1, n => (n % 256).toUInt8 :: littleEndian count (n / 256)

/-- The number that bytes stand for, the least significant first. -/
def ofLittleEndian : Bytes → Nat
  | [] => 0
  | b :: rest => b.toNat + 256 * ofLittleEndian rest

/-- The first bytes of the input, if there are enough. -/
def take? (count : Nat) (bs : Bytes) : Option (Bytes × Bytes) :=
  if count ≤ bs.length then some (bs.take count, bs.drop count) else none

/-! ### Fields -/

/-- The forms of payload that carry one value. -/
inductive Payload where
  | varint (n : UInt64)
  | fixed64 (n : UInt64)
  | bytes (bs : Bytes)
  | fixed32 (n : UInt32)
  /-- A group, whose contents are dropped. -/
  | group
deriving DecidableEq, Repr

/-- A field of a message. -/
structure Field where
  number : Nat
  payload : Payload
deriving DecidableEq, Repr

/-- What a key announces. -/
inductive Form where
  | varint
  | fixed64
  | bytes
  | groupStart
  | groupEnd
  | fixed32
deriving DecidableEq, Repr

def Form.code : Form → Nat
  | .varint => 0
  | .fixed64 => 1
  | .bytes => 2
  | .groupStart => 3
  | .groupEnd => 4
  | .fixed32 => 5

def Form.ofCode? : Nat → Option Form
  | 0 => some .varint
  | 1 => some .fixed64
  | 2 => some .bytes
  | 3 => some .groupStart
  | 4 => some .groupEnd
  | 5 => some .fixed32
  | _ => none

def key (number : Nat) (form : Form) : Bytes := varint (8 * number + form.code).toUInt64

/-- A key of at most 32 bits, whose field number is not zero. -/
def key? (bs : Bytes) : Option (Nat × Form × Bytes) := do
  let (k, rest) ← varint? bs
  if k.toNat < UInt32.size ∧ 8 ≤ k.toNat then
    let form ← Form.ofCode? (k.toNat % 8)
    return (k.toNat / 8, form, rest)
  else none

/-- Bytes with their length before them. -/
def lengthPrefixed (bs : Bytes) : Bytes := varint bs.length.toUInt64 ++ bs

/-- The text of a field. -/
def Field.encode (f : Field) : Bytes :=
  match f.payload with
  | .varint n => key f.number .varint ++ varint n
  | .fixed64 n => key f.number .fixed64 ++ littleEndian 8 n.toNat
  | .bytes bs => key f.number .bytes ++ lengthPrefixed bs
  | .fixed32 n => key f.number .fixed32 ++ littleEndian 4 n.toNat
  | .group => key f.number .groupStart ++ key f.number .groupEnd

/-- The fields one after the other. -/
def encode (fs : List Field) : Bytes := fs.flatMap Field.encode

/-- A payload that is no group. -/
def payload? : Form → Bytes → Option (Payload × Bytes)
  | .varint, bs => do
    let (n, rest) ← varint? bs
    return (.varint n, rest)
  | .fixed64, bs => do
    let (n, rest) ← take? 8 bs
    return (.fixed64 (ofLittleEndian n).toUInt64, rest)
  | .bytes, bs => do
    let (n, rest) ← varint? bs
    let (content, rest) ← take? n.toNat rest
    return (.bytes content, rest)
  | .fixed32, bs => do
    let (n, rest) ← take? 4 bs
    return (.fixed32 (ofLittleEndian n).toUInt32, rest)
  | .groupStart, _ => none
  | .groupEnd, _ => none

/-- The input behind the end of all open groups, whose numbers are given with the innermost
first.  No field may stand inside `limit` groups. -/
def skipGroups? (limit : Nat) : Nat → List Nat → Bytes → Option Bytes
  | _, [], bs => some bs
  | 0, _ :: _, _ => none
  | fuel + 1, g :: outer, bs => do
    let (number, form, rest) ← key? bs
    if form = .groupEnd then
      if number = g then skipGroups? limit fuel outer rest else none
    else if limit ≤ outer.length + 1 then none
    else if form = .groupStart then skipGroups? limit fuel (number :: g :: outer) rest
    else
      let (_, rest) ← payload? form rest
      skipGroups? limit fuel (g :: outer) rest

/-- The field at the start of the input. -/
def field? (limit : Nat) (bs : Bytes) : Option (Field × Bytes) := do
  let (number, form, rest) ← key? bs
  if form = .groupStart then
    let rest ← skipGroups? limit rest.length [number] rest
    return (⟨number, .group⟩, rest)
  else
    let (payload, rest) ← payload? form rest
    return (⟨number, payload⟩, rest)

/-- The fields of a message; every field takes a byte at least, so the length of the input is
fuel enough. -/
def fieldsWithin? (limit : Nat) : Nat → Bytes → Option (List Field)
  | _, [] => some []
  | 0, _ :: _ => none
  | fuel + 1, b :: bs => do
    let (f, rest) ← field? limit (b :: bs)
    let fs ← fieldsWithin? limit fuel rest
    return f :: fs

/-- The fields of a message in order. -/
def fields? (limit : Nat) (bs : Bytes) : Option (List Field) := fieldsWithin? limit bs.length bs

end Wire
end MetricRelay
