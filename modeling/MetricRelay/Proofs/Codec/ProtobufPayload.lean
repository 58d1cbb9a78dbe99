import MetricRelay.Codec
import MetricRelay.Proofs.Codec.Format
import MetricRelay.Proofs.Protobuf.Wire

/-!
# Protobuf payloads are read back

What `ProtobufPayload.encode` writes is read as the same points: the fields of a record add up
to the record (`ProtobufPayload.foldlM_recordFields`), which describes the point it was made
from (`ProtobufPayload.point_recordOf`).  Nothing is asked of a value, so the bits of a number
that is not finite survive.

The payload is a list of bytes in the memory of a machine with 64-bit addresses, so its length
is a 64-bit number, and with it every length inside.
-/

namespace MetricRelay
namespace ProtobufPayload

open Wire (Field)

/-! ### What fields add up to -/

/-- The value as it stands in a record. -/
def datumOf : Value → Datum
  | .float x => { double := some x }
  | .int i => { int := some i }

/-- The record of a point. -/
def recordOf (p : Point) : Record where
  source := p.source
  metric := some p.name
  timestamp := if p.timestampMs = 0 then none else some p.timestampMs
  value := some (datumOf p.value)
  metricType := some (typeCode p.kind)
  dimensions := p.dimensions.map fun (k, v) => ⟨some k, some v⟩

theorem text?_textField (number : Nat) (s : String) :
    text? (textField number s).payload = some s := Utf8.decode?_encode s

theorem int64?_varint (i : Int64) : int64? (.varint i.toUInt64) = some i := by
  simp [int64?]

theorem merge?_messageField {α : Type} (limit : Nat) (step : α → Field → Option α) (start : α)
    (number : Nat) {fs : List Field} (h : ∀ f ∈ fs, f.IsWritable) :
    merge? limit step start (messageField number fs).payload = fs.foldlM step start := by
  rw [messageField, merge?, Wire.fields?_encode h]
  rfl

theorem foldlM_dimensionFields (key value : String) :
    (dimensionFields key value).foldlM Dimension.step {} = some ⟨some key, some value⟩ := by
  have hk : Dimension.step {} (textField 1 key) = some { key := some key } := by
    simp only [Dimension.step, textField, text?, Utf8.decode?_encode]
    rfl
  have hv : Dimension.step { key := some key } (textField 2 value) =
      some ⟨some key, some value⟩ := by
    simp only [Dimension.step, textField, text?, Utf8.decode?_encode]
    rfl
  simp only [dimensionFields, List.foldlM_cons, List.foldlM_nil, hk, hv, Option.bind_eq_bind,
    Option.bind_some, Option.pure_def]

theorem foldlM_valueField (v : Value) :
    [valueField v].foldlM Datum.step {} = some (datumOf v) := by
  cases v with
  | float x => rfl
  | int i =>
    have : Datum.step {} (valueField (.int i)) = some { int := some i } := by
      simp only [Datum.step, valueField, int64?_varint]
      rfl
    simp only [List.foldlM_cons, List.foldlM_nil, this, Option.bind_eq_bind, Option.bind_some,
      Option.pure_def, datumOf]

/-! ### Everything can be written -/

theorem number_recordFields (p : Point) :
    ∀ f ∈ recordFields p, 0 < f.number ∧ f.number < 2 ^ 29 := by
  intro f hf
  simp only [recordFields, List.mem_append, List.mem_map, List.mem_cons, List.not_mem_nil,
    or_false] at hf
  rcases hf with ((hf | rfl | hf) | rfl | rfl) | ⟨e, -, rfl⟩
  · cases hs : p.source with
    | none => simp [hs, sourceFields] at hf
    | some s =>
      rw [hs] at hf
      obtain rfl := List.mem_singleton.1 hf
      simp [textField]
  · simp [textField]
  · unfold timestampFields at hf
    split at hf
    · cases hf
    · obtain rfl := List.mem_singleton.1 hf
      simp
  · simp [messageField]
  · simp
  · simp [messageField]

theorem isWritable_valueField (v : Value) : ∀ f ∈ [valueField v], f.IsWritable := by
  intro f hf
  obtain rfl := List.mem_singleton.1 hf
  cases v with
  | float x => exact ⟨by simp [valueField], by simp [valueField], nofun⟩
  | int i => exact ⟨by simp [valueField], by simp [valueField], nofun⟩

theorem isWritable_dimensionFields {key value : String}
    (fits : (Wire.encode (dimensionFields key value)).length < UInt64.size) :
    ∀ f ∈ dimensionFields key value, f.IsWritable := by
  refine Wire.isWritable_of_mem fits fun f hf => ?_
  simp only [dimensionFields, List.mem_cons, List.not_mem_nil, or_false] at hf
  rcases hf with rfl | rfl
  · simp [textField]
  · simp [textField]

/-! ### Records -/

theorem foldlM_sourceFields (source : Option String) :
    (sourceFields source).foldlM Record.step {} = some { source } := by
  cases source with
  | none => rfl
  | some s =>
    simp only [sourceFields, List.foldlM_cons, List.foldlM_nil, Record.step, text?_textField]
    rfl

theorem step_metric (r : Record) (name : String) :
    r.step (textField 2 name) = some { r with metric := some name } := by
  simp only [Record.step, text?_textField]
  rfl

theorem foldlM_timestampFields (r : Record) (t : Int64) (missing : r.timestamp = none) :
    (timestampFields t).foldlM Record.step r =
      some { r with timestamp := if t = 0 then none else some t } := by
  unfold timestampFields
  split
  · rw [← missing]
    rfl
  · simp only [List.foldlM_cons, List.foldlM_nil, Record.step, int64?_varint]
    rfl

theorem step_value (r : Record) (v : Value) (missing : r.value = none) :
    r.step (messageField 4 [valueField v]) = some { r with value := some (datumOf v) } := by
  have hm := merge?_messageField (groupLimit - 2) Datum.step {} 4 (isWritable_valueField v)
  simp only [Record.step, missing, Option.getD_none]
  rw [hm, foldlM_valueField]
  rfl

theorem step_metricType (r : Record) (k : Kind) :
    r.step ⟨5, .varint (typeCode k).toInt64.toUInt64⟩ =
      some { r with metricType := some (typeCode k) } := by
  cases k <;> rfl

theorem step_dimension (r : Record) {key value : String}
    (fits : (Wire.encode (dimensionFields key value)).length < UInt64.size) :
    r.step (messageField 6 (dimensionFields key value)) =
      some { r with dimensions := r.dimensions ++ [⟨some key, some value⟩] } := by
  have hm := merge?_messageField (groupLimit - 2) Dimension.step {} 6
    (isWritable_dimensionFields fits)
  simp only [Record.step]
  rw [hm, foldlM_dimensionFields]
  rfl

/-- Dimensions are collected in their order. -/
theorem foldlM_dimensions (r : Record) (ds : Dimensions)
    (fits : ∀ e ∈ ds, (Wire.encode (dimensionFields e.1 e.2)).length < UInt64.size) :
    (ds.map fun (k, v) => messageField 6 (dimensionFields k v)).foldlM Record.step r =
      some { r with dimensions := r.dimensions ++ ds.map fun (k, v) => ⟨some k, some v⟩ } := by
  induction ds generalizing r with
  | nil => simp
  | cons e ds ih =>
    rw [List.map_cons, List.foldlM_cons, step_dimension r (fits e List.mem_cons_self)]
    simp only [Option.bind_eq_bind, Option.bind_some]
    rw [ih _ fun e' h' => fits e' (List.mem_cons_of_mem _ h')]
    simp

/-- The fields of a record add up to it. -/
theorem foldlM_recordFields (p : Point)
    (fits : (Wire.encode (recordFields p)).length < UInt64.size) :
    (recordFields p).foldlM Record.step {} = some (recordOf p) := by
  -- the text of a dimension is part of the record, so it is short enough as well
  have hd := fun r => foldlM_dimensions r p.dimensions fun e he => by
    refine Nat.lt_of_le_of_lt (Wire.length_le_encode (f := messageField 6 _) ?_ rfl) fits
    exact List.mem_append_right _ (List.mem_map_of_mem he)
  simp only [recordFields, List.foldlM_append, List.foldlM_cons, List.foldlM_nil,
    foldlM_sourceFields, step_metric, foldlM_timestampFields, step_value, step_metricType, hd,
    Option.bind_eq_bind, Option.bind_some, Option.pure_def]
  rfl

theorem value?_datumOf (v : Value) : (datumOf v).value? = some v := by
  cases v <;> rfl

theorem kindOfType?_typeCode (k : Kind) : kindOfType? (typeCode k) = some k := by
  cases k <;> rfl

/-- The record of a valid point describes it. -/
theorem point_recordOf {p : Point} (h : p.IsValid) : (recordOf p).point = .ok p := by
  have htimestamp : (recordOf p).timestamp.getD 0 = p.timestampMs := by
    unfold recordOf
    split
    · rename_i hz
      exact hz.symm
    · rfl
  have hdimensions :
      (recordOf p).dimensions.map (fun d => (d.key.getD "", d.value.getD "")) =
        p.dimensions := by
    rw [recordOf, List.map_map]
    exact List.map_id _
  have hb : DecodeError.ofBuild (p.draft true).build = .ok p := h.ofBuild_draft (.inr rfl)
  unfold Record.point
  rw [htimestamp, hdimensions]
  simp only [recordOf, Option.bind_some, value?_datumOf, Option.getD_some, kindOfType?_typeCode]
  exact hb

/-! ### Payloads -/

theorem record?_messageField {p : Point}
    (fits : (Wire.encode (recordFields p)).length < UInt64.size) :
    record? (messageField 1 (recordFields p)) = some (some (recordOf p)) := by
  have hw := Wire.isWritable_of_mem fits (number_recordFields p)
  have hn : (messageField 1 (recordFields p)).number = 1 := rfl
  rw [record?, if_pos hn, merge?_messageField _ _ _ _ hw, foldlM_recordFields p fits]
  rfl

/-- The records of a payload are its fields. -/
theorem fields?_encode {points : List Point} (fits : (encode points).length < UInt64.size) :
    Wire.fields? groupLimit (encode points) =
      some (points.map fun p => messageField 1 (recordFields p)) := by
  refine Wire.fields?_encode (Wire.isWritable_of_mem fits fun f hf => ?_) groupLimit
  obtain ⟨p, -, rfl⟩ := List.mem_map.1 hf
  simp [messageField]

theorem records?_encode {points : List Point} (fits : (encode points).length < UInt64.size) :
    records? (encode points) = some (points.map recordOf) := by
  let field (p : Point) : Field := messageField 1 (recordFields p)
  have hr : ∀ p ∈ points, record? (field p) = some (some (recordOf p)) := fun p hp =>
    record?_messageField <|
      Nat.lt_of_le_of_lt (Wire.length_le_encode (List.mem_map_of_mem (f := field) hp) rfl) fits
  rw [records?, fields?_encode fits, Option.bind_eq_bind, Option.bind_some,
    mapM_map_eq_pure_map hr]
  simp

theorem decode_encode {points : List Point} (valid : ∀ p ∈ points, p.IsValid)
    (fits : (encode points).length < UInt64.size) : decode (encode points) = .ok points := by
  have hp : (points.map recordOf).mapM Record.point = .ok points := by
    have := mapM_map_eq_pure_map (g := id) fun p hp => point_recordOf (valid p hp)
    rwa [List.map_id] at this
  rw [decode, records?_encode fits]
  exact hp

/-- **Protobuf payloads are read back.**  Valid points with any values, finite or not, are
encoded, and decoding gives the same points in the same order.  Only the length of the payload
has to be one that a machine with 64-bit addresses can hold. -/
theorem protobuf_decode_encode {points : List Point} (valid : ∀ p ∈ points, p.IsValid) :
    ∃ bs, Format.encode .protobuf points = .ok bs ∧
      (bs.length < UInt64.size → Format.decode .protobuf bs = .ok points) :=
  ⟨encode points, rfl, decode_encode valid⟩

/-- A value that is no number comes back with its payload. -/
theorem protobuf_decode_encode_nan :
    let p := Point.sample .gauge (.float ⟨0xFFF8000000000001⟩)
    p.IsValid ∧ ∃ bs, Format.encode .protobuf [p] = .ok bs ∧ bs.length = 67 ∧
      Format.decode .protobuf bs = .ok [p] := by
  intro p
  have valid : ∀ p' ∈ [p], p'.IsValid := fun p' h' => by
    obtain rfl := List.mem_singleton.1 h'
    exact Point.isValid_sample _ _
  have hl : (encode [p]).length = 67 := by decide
  obtain ⟨bs, he, hd⟩ := protobuf_decode_encode valid
  obtain rfl : encode [p] = bs := Except.ok.inj he
  exact ⟨Point.isValid_sample _ _, _, rfl, hl, hd (by rw [hl]; decide)⟩

end ProtobufPayload
end MetricRelay
