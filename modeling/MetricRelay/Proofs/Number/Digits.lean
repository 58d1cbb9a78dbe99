import Mathlib.Data.Nat.Digits.Lemmas
import MetricRelay.Number.Decimal

/-!
# Digits of naturals

`decimalDigits` writes a natural and `ofDigits` reads it: reading gives back what was written
(`ofDigits_decimalDigits`), and what is written has no leading zero (`isPlain_decimalDigits`).
-/

namespace MetricRelay

/-- The digits write a natural without a needless zero in front. -/
structure IsPlain (ds : List Nat) : Prop where
  nonempty : ds ≠ []
  digit : ∀ d ∈ ds, d < 10
  leading : ∀ rest, ds = 0 :: rest → rest = []

/-! ### Writing -/

theorem decimalDigits_go (fuel n : Nat) (acc : List Nat) (positive : 0 < n)
    (enough : n < 2 ^ fuel) :
    decimalDigits.go fuel n acc = (Nat.digits 10 n).reverse ++ acc := by
  induction fuel generalizing n acc with
  | zero =>
    rw [Nat.pow_zero] at enough
    omega
  | succ fuel ih =>
    rw [decimalDigits.go]
    split
    · rename_i small
      rw [Nat.digits_of_lt 10 n (by omega) small]
      rfl
    · rw [Nat.pow_succ] at enough
      rw [ih (n / 10) _ (by omega) (by omega), Nat.digits_def' (by decide) positive]
      simp

theorem decimalDigits_eq {n : Nat} (positive : 0 < n) :
    decimalDigits n = (Nat.digits 10 n).reverse := by
  have := decimalDigits_go (n.log2 + 1) n [] positive Nat.lt_log2_self
  rwa [List.append_nil] at this

theorem decimalDigits_zero : decimalDigits 0 = [0] := rfl

theorem isPlain_decimalDigits (n : Nat) : IsPlain (decimalDigits n) := by
  rcases Nat.eq_zero_or_pos n with rfl | positive
  · rw [decimalDigits_zero]
    exact ⟨nofun, by simp, fun rest h => (List.cons.inj h).2.symm⟩
  · have hn : n ≠ 0 := by omega
    have nonempty : Nat.digits 10 n ≠ [] := Nat.digits_ne_nil_iff_ne_zero.2 hn
    rw [decimalDigits_eq positive]
    refine ⟨by simpa using nonempty, fun d hd => ?_, fun rest h => ?_⟩
    · exact Nat.digits_lt_base (by decide) (List.mem_reverse.1 hd)
    · -- the leading digit is the last one of those that count from the right
      have hl := Nat.getLast_digit_ne_zero 10 hn
      rw [List.getLast_eq_head_reverse nonempty] at hl
      simp only [h, List.head_cons, ne_eq, not_true_eq_false] at hl

theorem length_decimalDigits_pos (n : Nat) : 0 < (decimalDigits n).length :=
  List.length_pos_iff.2 (isPlain_decimalDigits n).nonempty

theorem lt_pow_length_decimalDigits (n : Nat) : n < 10 ^ (decimalDigits n).length := by
  rcases Nat.eq_zero_or_pos n with rfl | positive
  · decide
  · rw [decimalDigits_eq positive, List.length_reverse]
    exact Nat.lt_base_pow_length_digits (by decide)

theorem pow_length_decimalDigits_le {n : Nat} (positive : 0 < n) :
    10 ^ (decimalDigits n).length ≤ 10 * n := by
  rw [decimalDigits_eq positive, List.length_reverse]
  exact Nat.base_pow_length_digits_le 10 n (by decide) (by omega)

/-! ### Reading -/

theorem ofDigits_eq (ds : List Nat) : ofDigits ds = Nat.ofDigits 10 ds.reverse := by
  rw [Nat.ofDigits_eq_foldr, List.foldr_reverse]
  unfold ofDigits
  congr 1
  funext n d
  push_cast
  ring

theorem ofDigits_append (ds ds' : List Nat) :
    ofDigits (ds ++ ds') = ofDigits ds * 10 ^ ds'.length + ofDigits ds' := by
  rw [ofDigits_eq, ofDigits_eq, ofDigits_eq, List.reverse_append, Nat.ofDigits_append,
    List.length_reverse]
  ring

theorem ofDigits_replicate_zero (k : Nat) : ofDigits (List.replicate k 0) = 0 := by
  rw [ofDigits_eq, List.reverse_replicate, Nat.ofDigits_replicate_zero]

/-- A natural is read as it was written. -/
theorem ofDigits_decimalDigits (n : Nat) : ofDigits (decimalDigits n) = n := by
  rcases Nat.eq_zero_or_pos n with rfl | positive
  · rfl
  · rw [ofDigits_eq, decimalDigits_eq positive, List.reverse_reverse, Nat.ofDigits_digits]

end MetricRelay
