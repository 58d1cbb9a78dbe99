/-!
# Text and bytes

Payloads are lists of bytes and names are text.  `Utf8.encode` and `Utf8.decode?` go between
the two; `Utf8.decodeLossy` accepts any bytes and writes one replacement character for every
maximal run that starts a character but does not finish it.
-/

namespace MetricRelay

abbrev Bytes := List UInt8

namespace Utf8

def encode (s : String) : Bytes := s.toByteArray.data.toList

/-- The text of well-formed bytes. -/
def decode? (bs : Bytes) : Option String := String.fromUTF8? ⟨bs.toArray⟩

theorem decode?_encode (s : String) : decode? (encode s) = some s := by
  have h : (⟨(encode s).toArray⟩ : ByteArray) = s.toByteArray := by simp [encode]
  rw [decode?, h, String.fromUTF8?, dif_pos s.isValidUTF8]
  rfl

/-- What a leading byte announces: its part of the character, the number of bytes to follow,
and the range of the first of them.  The range shuts out overlong forms, surrogates and
numbers beyond the last character. -/
structure Lead where
  value : Nat
  tails : Nat
  low : UInt8
  high : UInt8

def lead? (b : UInt8) : Option Lead :=
  if b < 0x80 then some ⟨b.toNat, 0, 0x80, 0xBF⟩
  else if b < 0xC2 then none
  else if b < 0xE0 then some ⟨b.toNat - 0xC0, 1, 0x80, 0xBF⟩
  else if b < 0xF0 then
    some ⟨b.toNat - 0xE0, 2, if b = 0xE0 then 0xA0 else 0x80, if b = 0xED then 0x9F else 0xBF⟩
  else if b < 0xF5 then
    some ⟨b.toNat - 0xF0, 3, if b = 0xF0 then 0x90 else 0x80, if b = 0xF4 then 0x8F else 0xBF⟩
  else none

/-- Reads the bytes that follow a leading byte while they fit, and gives the character, or the
replacement character if some are missing, with the bytes that remain. -/
def finish (l : Lead) : Nat → Bytes → Char × Bytes
  | 0, rest => (Char.ofNat l.value, rest)
  | _ + 1, [] => ('\uFFFD', [])
  | n + 1, b :: rest =>
    if l.low ≤ b ∧ b ≤ l.high then
      finish ⟨64 * l.value + (b.toNat - 0x80), n, 0x80, 0xBF⟩ n rest
    else ('\uFFFD', b :: rest)

theorem length_finish_le (l : Lead) (n : Nat) (bs : Bytes) :
    (finish l n bs).2.length ≤ bs.length := by
  induction n generalizing l bs with
  | zero => simp [finish]
  | succ n ih =>
    cases bs with
    | nil => simp [finish]
    | cons b rest =>
      simp only [finish]
      split
      · exact Nat.le_succ_of_le (ih _ rest)
      · exact Nat.le_refl _

/-- The characters of any bytes, with replacement characters where they are malformed. -/
def decodeLossy : Bytes → List Char
  | [] => []
  | b :: rest =>
    match lead? b with
    | none => '\uFFFD' :: decodeLossy rest
    | some l =>
      have := length_finish_le l l.tails rest
      (finish l l.tails rest).1 :: decodeLossy (finish l l.tails rest).2
  termination_by bs => bs.length

end Utf8

end MetricRelay
