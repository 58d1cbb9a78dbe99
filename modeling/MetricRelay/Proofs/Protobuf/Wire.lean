import Mathlib.Algebra.Order.Ring.Nat
import MetricRelay.Protobuf.Wire

/-!
# Reading fields that were written

Each reader of `Wire` takes back what its writer wrote and leaves what follows: numbers
(`Wire.varint?_varint`, `Wire.ofLittleEndian_littleEndian`), keys (`Wire.key?_key`), fields
(`Wire.field?_encode`) and so whole messages (`Wire.fields?_encode`).

A length is written as a 64-bit number, so bytes are only written if there are fewer of them
than `2 ^ 64` (`Wire.Field.IsWritable`).
-/

namespace MetricRelay
namespace Wire

/-! ### Integers -/

theorem varintWithin?_single {n : Nat} (h : n < 128) (more : Nat) (rest : Bytes) :
    varintWithin? (more + 1) (n.toUInt8 :: rest) = some (n, rest) := by
  have hb : n.toUInt8.toNat = n := UInt8.toNat_ofNat_of_lt' (Nat.lt_trans h (by decide))
  have small : n.toUInt8 < 128 := by
    rw [UInt8.lt_iff_toNat_lt, hb]
    exact h
  rw [varintWithin?, if_pos small, hb]

theorem varintWithin?_varintBytes (more n : Nat) (h : n < 128 ^ (more + 1)) (rest : Bytes) :
    varintWithin? (more + 1) (varintBytes more n ++ rest) = some (n, rest) := by
  induction more generalizing n with
  | zero => exact varintWithin?_single h 0 rest
  | succ more ih =>
    rw [varintBytes]
    split
    · rename_i small
      exact varintWithin?_single small _ rest
    · -- the first seven bits have the high bit set, and the rest follows
      have hb : (n % 128 + 128).toUInt8.toNat = n % 128 + 128 :=
        UInt8.toNat_ofNat_of_lt' (show n % 128 + 128 < 256 by omega)
      have big : ¬(n % 128 + 128).toUInt8 < 128 := by
        rw [UInt8.lt_iff_toNat_lt, hb]
        exact Nat.not_lt.2 (Nat.le_add_left _ _)
      have hn : n / 128 < 128 ^ (more + 1) := by
        rw [Nat.pow_succ] at h
        exact Nat.div_lt_of_lt_mul (by omega)
      rw [List.cons_append, varintWithin?, if_neg big, ih _ hn]
      simp only [hb, Option.bind_eq_bind, Option.bind_some, Option.pure_def, Option.some.injEq,
        Prod.mk.injEq, and_true]
      omega

theorem varint?_varint (n : UInt64) (rest : Bytes) :
    varint? (varint n ++ rest) = some (n, rest) := by
  have h := n.toNat_lt
  unfold varint? varint
  rw [varintWithin?_varintBytes 9 _ (Nat.lt_trans h (by decide))]
  have : n.toNat < UInt64.size := h
  simp [this]

theorem length_littleEndian (count n : Nat) : (littleEndian count n).length = count := by
  induction count generalizing n with
  | zero => rfl
  | succ count ih => rw [littleEndian, List.length_cons, ih]

theorem ofLittleEndian_littleEndian (count n : Nat) (h : n < 256 ^ count) :
    ofLittleEndian (littleEndian count n) = n := by
  induction count generalizing n with
  | zero => simp only [Nat.pow_zero] at h; simp only [littleEndian, ofLittleEndian]; omega
  | succ count ih =>
    have hb : (n % 256).toUInt8.toNat = n % 256 :=
      UInt8.toNat_ofNat_of_lt' (show n % 256 < 256 by omega)
    have hn : n / 256 < 256 ^ count := by
      rw [Nat.pow_succ] at h
      exact Nat.div_lt_of_lt_mul (by omega)
    rw [littleEndian, ofLittleEndian, ih _ hn, hb]
    omega

theorem take?_append {count : Nat} {bs : Bytes} (h : bs.length = count) (rest : Bytes) :
    take? count (bs ++ rest) = some (bs, rest) := by
  subst h
  simp [take?]

/-! ### Fields -/

/-- The field has a number, and the length of its payload is one. -/
structure Field.IsWritable (f : Field) : Prop where
  positive : 0 < f.number
  bounded : f.number < 2 ^ 29
  short : ∀ bs, f.payload = .bytes bs → bs.length < UInt64.size

theorem Form.ofCode?_code (form : Form) : Form.ofCode? form.code = some form := by
  cases form <;> rfl

theorem key?_key {number : Nat} (positive : 0 < number) (bounded : number < 2 ^ 29) (form : Form)
    (rest : Bytes) : key? (key number form ++ rest) = some (number, form, rest) := by
  have hc : form.code < 8 := by cases form <;> decide
  have hk : (8 * number + form.code).toUInt64.toNat = 8 * number + form.code :=
    UInt64.toNat_ofNat_of_lt' (show 8 * number + form.code < 2 ^ 64 by omega)
  have inRange : 8 * number + form.code < UInt32.size ∧ 8 ≤ 8 * number + form.code := by
    unfold UInt32.size
    omega
  have hm : (8 * number + form.code) % 8 = form.code := by omega
  have hd : (8 * number + form.code) / 8 = number := by omega
  unfold key? key
  rw [varint?_varint]
  simp only [Option.bind_eq_bind, Option.bind_some, hk, if_pos inRange, hm, hd,
    Form.ofCode?_code, Option.pure_def]

theorem payload?_varint (n : UInt64) (rest : Bytes) :
    payload? .varint (varint n ++ rest) = some (.varint n, rest) := by
  rw [payload?, varint?_varint]
  rfl

theorem payload?_fixed64 (n : UInt64) (rest : Bytes) :
    payload? .fixed64 (littleEndian 8 n.toNat ++ rest) = some (.fixed64 n, rest) := by
  rw [payload?, take?_append (length_littleEndian _ _)]
  simp [ofLittleEndian_littleEndian 8 n.toNat n.toNat_lt]

theorem payload?_fixed32 (n : UInt32) (rest : Bytes) :
    payload? .fixed32 (littleEndian 4 n.toNat ++ rest) = some (.fixed32 n, rest) := by
  rw [payload?, take?_append (length_littleEndian _ _)]
  simp [ofLittleEndian_littleEndian 4 n.toNat n.toNat_lt]

theorem payload?_bytes {bs : Bytes} (short : bs.length < UInt64.size) (rest : Bytes) :
    payload? .bytes (lengthPrefixed bs ++ rest) = some (.bytes bs, rest) := by
  have hl : bs.length.toUInt64.toNat = bs.length := UInt64.toNat_ofNat_of_lt' short
  rw [payload?, lengthPrefixed, List.append_assoc, varint?_varint]
  simp only [Option.bind_eq_bind, Option.bind_some, take?_append hl.symm, Option.pure_def]

/-- A field is read back, whatever follows. -/
theorem field?_encode {f : Field} (h : f.IsWritable) (limit : Nat) (rest : Bytes) :
    field? limit (f.encode ++ rest) = some (f, rest) := by
  obtain ⟨number, payload⟩ := f
  obtain ⟨positive, bounded, short⟩ := h
  have hk := key?_key positive bounded
  cases payload with
  | varint n =>
    rw [Field.encode, List.append_assoc, field?, hk]
    simp [payload?_varint]
  | fixed64 n =>
    rw [Field.encode, List.append_assoc, field?, hk]
    simp [payload?_fixed64]
  | bytes bs =>
    rw [Field.encode, List.append_assoc, field?, hk]
    simp [payload?_bytes (short bs rfl)]
  | fixed32 n =>
    rw [Field.encode, List.append_assoc, field?, hk]
    simp [payload?_fixed32]
  | group =>
    rw [Field.encode, List.append_assoc, field?, hk]
    -- the key that ends the group is fuel enough to skip it
    obtain ⟨b, bs, he⟩ : ∃ b bs, key number .groupEnd ++ rest = b :: bs := by
      refine List.exists_cons_of_ne_nil fun he => ?_
      have := hk .groupEnd rest
      rw [he] at this
      cases this
    have hs : skipGroups? limit (bs.length + 1) [number] (b :: bs) = some rest := by
      rw [skipGroups?, ← he, hk]
      simp [skipGroups?]
    simp [he, hs]

theorem encode_ne_nil {f : Field} (h : f.IsWritable) : f.encode ≠ [] := by
  intro he
  have := field?_encode h 0 []
  rw [he] at this
  cases this

theorem fieldsWithin?_encode {fs : List Field} (h : ∀ f ∈ fs, f.IsWritable) (limit fuel : Nat)
    (enough : (encode fs).length ≤ fuel) : fieldsWithin? limit fuel (encode fs) = some fs := by
  induction fs generalizing fuel with
  | nil => rw [encode, List.flatMap_nil, fieldsWithin?]
  | cons f fs ih =>
    have hf := h f List.mem_cons_self
    have cut : encode (f :: fs) = f.encode ++ encode fs := rfl
    have longer : 0 < f.encode.length := List.length_pos_iff.2 (encode_ne_nil hf)
    rw [cut, List.length_append] at enough
    obtain ⟨b, bs, hb⟩ := List.exists_cons_of_ne_nil (encode_ne_nil hf)
    obtain ⟨fuel, rfl⟩ := Nat.exists_eq_add_one.2 (show 0 < fuel by omega)
    have hr := field?_encode hf limit (encode fs)
    have hs := ih (fun f' h' => h f' (List.mem_cons_of_mem f h')) fuel (by omega)
    rw [cut, hb, List.cons_append, fieldsWithin?, ← List.cons_append, ← hb, hr]
    simp [hs]

/-- **A message is read back field by field.** -/
theorem fields?_encode {fs : List Field} (h : ∀ f ∈ fs, f.IsWritable) (limit : Nat) :
    fields? limit (encode fs) = some fs :=
  fieldsWithin?_encode h limit _ (Nat.le_refl _)

/-- The payload of a field is part of the message. -/
theorem length_le_encode {fs : List Field} {f : Field} (h : f ∈ fs) {bs : Bytes}
    (hb : f.payload = .bytes bs) : bs.length ≤ (encode fs).length := by
  have inField : bs.length ≤ f.encode.length := by
    unfold Field.encode
    rw [hb]
    simp only [lengthPrefixed, List.length_append]
    omega
  obtain ⟨before, after, rfl⟩ := List.append_of_mem h
  simp only [encode, List.flatMap_append, List.flatMap_cons, List.length_append]
  omega

/-- All fields of a message can be written if its length is a 64-bit number. -/
theorem isWritable_of_mem {fs : List Field} (fits : (encode fs).length < UInt64.size)
    (numbered : ∀ f ∈ fs, 0 < f.number ∧ f.number < 2 ^ 29) : ∀ f ∈ fs, f.IsWritable :=
  fun f h => ⟨(numbered f h).1, (numbered f h).2, fun _ hb =>
    Nat.lt_of_le_of_lt (length_le_encode h hb) fits⟩

end Wire
end MetricRelay
