import MetricRelay.Proofs.Codec.Concatenation
import MetricRelay.Proofs.Codec.JsonPayload
import MetricRelay.Proofs.Codec.ProtobufPayload
import MetricRelay.Proofs.Json.Continuation

/-!
# Payloads that are cut off

What is left of a payload that was cut off never describes other points.  A JSON payload is an
object, so what is left of it is no document at all (`Json.parse?_eq_none_of_cut`).  Of a protobuf
payload some fields may be left, and they are the first ones that were written: what is missing
would be read behind them (`Wire.fields?_append`).
-/

namespace MetricRelay
namespace ProtobufPayload

/-- What is left of a payload does not parse, or the first records are left and some are missing. -/
theorem fields?_of_cut {points : List Point} (fits : (encode points).length < UInt64.size)
    {kept missing : Bytes} (cut : kept ++ missing = encode points) (proper : missing ≠ []) :
    Wire.fields? groupLimit kept = none ∨ ∃ k < points.length,
      Wire.fields? groupLimit kept = some ((points.take k).map fun p =>
        messageField 1 (recordFields p)) := by
  cases parsed : Wire.fields? groupLimit kept with
  | none => exact .inl rfl
  | some fs =>
    have whole := fields?_encode fits
    rw [← cut, Wire.fields?_append parsed] at whole
    obtain ⟨fs', behind, written⟩ := Option.map_eq_some_iff.1 whole
    rw [Wire.fields?_of_ne_nil proper] at behind
    obtain ⟨⟨f, rest⟩, -, behind⟩ := Option.bind_eq_some_iff.1 behind
    obtain ⟨fs'', -, given⟩ := Option.bind_eq_some_iff.1 behind
    cases given
    refine .inr ⟨fs.length, ?_, ?_⟩
    · have := congrArg List.length written
      rw [List.length_append, List.length_cons, List.length_map] at this
      omega
    · rw [List.map_take, ← written, List.take_left]

theorem decode_of_cut {points : List Point} (valid : ∀ p ∈ points, p.IsValid)
    (fits : (encode points).length < UInt64.size) {kept missing : Bytes}
    (cut : kept ++ missing = encode points) (proper : missing ≠ []) :
    decode kept = .error .protobuf ∨
      ∃ k < points.length, decode kept = .ok (points.take k) := by
  rcases fields?_of_cut fits cut proper with unparsed | ⟨k, fewer, parsed⟩
  · exact .inl (by rw [decode, records?, unparsed]; rfl)
  · refine .inr ⟨k, fewer, ?_⟩
    -- the first points have a payload with the same fields
    have fits' : (encode (points.take k)).length < UInt64.size := by
      have := encode_append (points.take k) (points.drop k)
      rw [List.take_append_drop] at this
      rw [this, List.length_append] at fits
      omega
    have same : decode kept = decode (encode (points.take k)) := by
      simp only [decode, records?, parsed, fields?_encode fits']
    rw [same]
    exact decode_encode (fun p hp => valid p (List.mem_of_mem_take hp)) fits'

end ProtobufPayload

/-- **Truncation never forges points.**  Valid points are encoded, and the payload is cut off
anywhere before its end.

* What is left of a protobuf payload does not decode as protobuf, or it decodes to the first of
  the points, of which some are missing.  Only the length of the payload has to be one that a
  machine with 64-bit addresses can hold.
* If the values are finite, what is left of a JSON payload does not decode as JSON. -/
theorem truncation_forges_nothing {points : List Point} (valid : ∀ p ∈ points, p.IsValid) :
    (∃ bs, Format.encode .protobuf points = .ok bs ∧ (bs.length < UInt64.size →
      ∀ kept missing, kept ++ missing = bs → missing ≠ [] →
        Format.decode .protobuf kept = .error .protobuf ∨
          ∃ k < points.length, Format.decode .protobuf kept = .ok (points.take k))) ∧
    ((∀ p ∈ points, p.value.isFinite = true) →
      ∃ bs, Format.encode .json points = .ok bs ∧
        ∀ kept missing, kept ++ missing = bs → missing ≠ [] →
          Format.decode .json kept = .error .json) := by
  refine ⟨⟨_, rfl, fun fits kept missing cut proper =>
    ProtobufPayload.decode_of_cut valid fits cut proper⟩, fun finite => ?_⟩
  refine ⟨_, JsonPayload.encode_of_isFinite finite, fun kept missing cut proper => ?_⟩
  have unparsed : Json.parse? kept = none :=
    Json.parse?_eq_none_of_cut (JsonPayload.isWellFormed_payload points) cut proper
  rw [Format.decode, JsonPayload.decode, unparsed]
  rfl

/-- The payloads are cut off inside the text of the second point and inside that of the first. -/
theorem truncation_forges_nothing_sample :
    let p := Point.sample .gauge (.int 7)
    let q := Point.sample .counter (.int (-3))
    let kept := ProtobufPayload.encode [p] ++ (ProtobufPayload.encode [q]).take 12
    (∀ x ∈ [p, q], x.IsValid ∧ x.value.isFinite = true) ∧
    (Format.decode .protobuf kept = .error .protobuf ∨
      ∃ k < 2, Format.decode .protobuf kept = .ok ([p, q].take k)) ∧
    ∃ bs, Format.encode .json [p, q] = .ok bs ∧
      Format.decode .json (bs.take 40) = .error .json := by
  intro p q kept
  have sound : ∀ x ∈ [p, q], x.IsValid ∧ x.value.isFinite = true := by
    intro x hx
    simp only [List.mem_cons, List.not_mem_nil, or_false] at hx
    rcases hx with rfl | rfl
    · exact ⟨Point.isValid_sample _ _, rfl⟩
    · exact ⟨Point.isValid_sample _ _, rfl⟩
  obtain ⟨⟨bs, encoded, cut_protobuf⟩, of_json⟩ :=
    truncation_forges_nothing fun x hx => (sound x hx).1
  obtain rfl : ProtobufPayload.encode [p, q] = bs := Except.ok.inj encoded
  obtain ⟨bs, encoded, cut_json⟩ := of_json fun x hx => (sound x hx).2
  refine ⟨sound, cut_protobuf (by decide +kernel) kept ((ProtobufPayload.encode [q]).drop 12) ?_ ?_,
    bs, encoded, cut_json (bs.take 40) (bs.drop 40) (List.take_append_drop _ _) ?_⟩
  · rw [List.append_assoc, List.take_append_drop]
    exact (ProtobufPayload.encode_append [p] [q]).symm
  · decide
  · obtain rfl : _ = bs := Except.ok.inj encoded
    decide +kernel

end MetricRelay
