import MetricRelay.Codec
import MetricRelay.Proofs.Protobuf.Continuation

/-!
# Payloads one after the other

Protobuf payloads that stand one after the other are one payload.  Its fields are the fields of
both (`Wire.fields?_append`), and each field at the top holds one record or none, so its records
are those of both as well (`ProtobufPayload.records?_append`).

A payload is parsed as a whole before the first point is built, so a record that describes no
point matters only if both payloads parse, and then the first such record decides.
-/

namespace MetricRelay
namespace ProtobufPayload

theorem encode_append (points points' : List Point) :
    encode (points ++ points') = encode points ++ encode points' := by
  simp only [encode, Wire.encode, List.map_append, List.flatMap_append]

/-- The records of two payloads, one after the other. -/
theorem records?_append {x y : Bytes} {rs rs' : List Record} (hx : records? x = some rs)
    (hy : records? y = some rs') : records? (x ++ y) = some (rs ++ rs') := by
  obtain ⟨fs, fields, hx⟩ := Option.bind_eq_some_iff.1 hx
  obtain ⟨found, read, given⟩ := Option.bind_eq_some_iff.1 hx
  cases given
  obtain ⟨fs', fields', hy⟩ := Option.bind_eq_some_iff.1 hy
  obtain ⟨found', read', given'⟩ := Option.bind_eq_some_iff.1 hy
  cases given'
  have both : Wire.fields? groupLimit (x ++ y) = some (fs ++ fs') := by
    rw [Wire.fields?_append fields, fields']
    rfl
  rw [records?, both, Option.bind_eq_bind, Option.bind_some, List.mapM_append, read, read']
  simp

/-! ### Records that describe no point -/

/-- Why a record describes no point. -/
def Record.fault? (r : Record) : Option DecodeError :=
  match r.point with
  | .ok _ => none
  | .error e => some e

/-- The first record that describes no point decides. -/
theorem mapM_point_eq_error {rs : List Record} {e : DecodeError}
    (first : rs.findSome? Record.fault? = some e) : rs.mapM Record.point = .error e := by
  induction rs with
  | nil => cases first
  | cons r rs ih =>
    rw [List.mapM_cons]
    rw [List.findSome?_cons, Record.fault?] at first
    cases described : r.point with
    | error e' =>
      rw [described] at first
      cases first
      rfl
    | ok p =>
      rw [described] at first
      rw [ih first]
      rfl

theorem decode_eq_ok_iff {bs : Bytes} {points : List Point} :
    decode bs = .ok points ↔ ∃ rs, records? bs = some rs ∧ rs.mapM Record.point = .ok points := by
  unfold decode
  cases records? bs <;> simp

/-! ### Concatenation -/

/-- **Protobuf payloads concatenate.**

* Points are encoded as a payload for each part of the list, one after the other.
* Two payloads that are decoded, whatever else they hold, are decoded together if they stand one
  after the other, into the points of both.
* If both parse but not all records describe points, the error is that of the first such record,
  which is one of the first payload if there is one. -/
theorem payloads_concatenate :
    (∀ points points' : List Point, ∃ bs bs',
      Format.encode .protobuf points = .ok bs ∧ Format.encode .protobuf points' = .ok bs' ∧
        Format.encode .protobuf (points ++ points') = .ok (bs ++ bs')) ∧
    (∀ x y points points',
      Format.decode .protobuf x = .ok points → Format.decode .protobuf y = .ok points' →
        Format.decode .protobuf (x ++ y) = .ok (points ++ points')) ∧
    ∀ x y rs rs' e, records? x = some rs → records? y = some rs' →
      (rs.findSome? Record.fault?).or (rs'.findSome? Record.fault?) = some e →
        Format.decode .protobuf (x ++ y) = .error e := by
  refine ⟨fun points points' => ?_, fun x y points points' hx hy => ?_,
    fun x y rs rs' e hx hy first => ?_⟩
  · exact ⟨_, _, rfl, rfl, congrArg Except.ok (encode_append points points')⟩
  · obtain ⟨rs, parsed, described⟩ := decode_eq_ok_iff.1 hx
    obtain ⟨rs', parsed', described'⟩ := decode_eq_ok_iff.1 hy
    refine decode_eq_ok_iff.2 ⟨rs ++ rs', records?_append parsed parsed', ?_⟩
    rw [List.mapM_append, described, described']
    rfl
  · rw [← List.findSome?_append] at first
    rw [Format.decode, decode, records?_append hx hy]
    exact mapM_point_eq_error first

/-- A field with an unknown number, whose value has more bytes than it needs, a group with a group
inside, and a record with its value before its name, whose key and length are too long as well. -/
def sampleForeign : Bytes :=
  [0x48, 0x85, 0x80, 0x00, 0x3B, 0x13, 0x14, 0x3C, 0x8A, 0x00, 0x89, 0x00, 0x22, 0x02, 0x18, 0x02,
    0x12, 0x03, 0x63, 0x70, 0x75]

/-- A record without a value. -/
def sampleValueless : Bytes := [0x0A, 0x05, 0x12, 0x03, 0x64, 0x73, 0x6B]

theorem payloads_concatenate_sample :
    let cpu : Point := ⟨"cpu", .gauge, .int 2, none, [], 0⟩
    Format.decode .protobuf sampleForeign = .ok [cpu] ∧
    Format.decode .protobuf (sampleForeign ++ sampleForeign) = .ok [cpu, cpu] ∧
    Format.decode .protobuf (sampleForeign ++ sampleValueless) = .error (.missingValue "dsk") := by
  intro cpu
  have decoded : decode sampleForeign = .ok [cpu] := by decide +kernel
  obtain ⟨-, joined, failed⟩ := payloads_concatenate
  refine ⟨decoded, joined sampleForeign sampleForeign [cpu] [cpu] decoded decoded, ?_⟩
  obtain ⟨rs, parsed, described⟩ := decode_eq_ok_iff.1 decoded
  have sound : rs.findSome? Record.fault? = none := by
    rw [Option.eq_none_iff_forall_ne_some]
    intro e first
    rw [mapM_point_eq_error first] at described
    cases described
  refine failed sampleForeign sampleValueless rs [{ metric := some "dsk" }] _ parsed rfl ?_
  rw [sound]
  decide +kernel

end ProtobufPayload
end MetricRelay
