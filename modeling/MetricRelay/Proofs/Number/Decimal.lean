import Mathlib.Algebra.Order.Field.Power
import Mathlib.Algebra.Order.Ring.Rat
import Mathlib.Data.Rat.Cast.Lemmas
import Mathlib.Tactic.FieldSimp
import Mathlib.Tactic.Positivity
import MetricRelay.Proofs.Number.Digits

/-!
# The numbers that decimals stand for

`Decimal.value` is the exact value of a decimal.  The powers by which the program scales are
parts of one power with an integer exponent (`pow2_eq`, `pow10_eq`), so what it computes on
naturals is stated of values.
-/

namespace MetricRelay

/-! ### Powers -/

theorem pow2_pos (k : ℤ) : 0 < pow2 k := Nat.pow_pos (by decide)

theorem pow10_pos (k : ℤ) : 0 < pow10 k := Nat.pow_pos (by decide)

/-- A power with an integer exponent, written as a ratio of naturals. -/
theorem pow_toNat_eq {b : ℕ} (positive : 0 < b) (k : ℤ) :
    ((Nat.pow b k.toNat : ℕ) : ℚ) = b ^ k * (Nat.pow b (-k).toNat : ℕ) := by
  have hb : (b : ℚ) ≠ 0 := Nat.cast_ne_zero.2 positive.ne'
  obtain ⟨n, rfl | rfl⟩ := k.eq_nat_or_neg
  · simp
  · rw [neg_neg, zpow_neg, zpow_natCast]
    simp [hb]

theorem pow2_eq (k : ℤ) : (pow2 k : ℚ) = 2 ^ k * pow2 (-k) := pow_toNat_eq (by decide) k

theorem pow10_eq (k : ℤ) : (pow10 k : ℚ) = 10 ^ k * pow10 (-k) := pow_toNat_eq (by decide) k

namespace Decimal

/-! ### Values -/

/-- The number that a decimal stands for. -/
def value (d : Decimal) : ℚ := d.digits * 10 ^ d.exponent

theorem denominator_pos (d : Decimal) : 0 < d.denominator := pow10_pos _

theorem value_eq_div (d : Decimal) : d.value = d.numerator / d.denominator := by
  have hd : (0 : ℚ) < d.denominator := Nat.cast_pos.2 d.denominator_pos
  rw [eq_div_iff hd.ne', value, numerator, denominator, Nat.cast_mul, pow10_eq d.exponent]
  ring

theorem value_eq_zero_iff (d : Decimal) : d.value = 0 ↔ d.digits = 0 := by
  have : (10 : ℚ) ^ d.exponent ≠ 0 := by positivity
  simp [value, this]

/-- The leading digit stands where it should. -/
theorem value_bounds {d : Decimal} (h : d.digits ≠ 0) :
    10 ^ (d.leadingPosition - 1) ≤ d.value ∧ d.value < 10 ^ d.leadingPosition := by
  have he : (0 : ℚ) < 10 ^ d.exponent := by positivity
  have low : (10 : ℚ) ^ (decimalDigits d.digits).length ≤ 10 * d.digits := by
    exact_mod_cast pow_length_decimalDigits_le (Nat.pos_of_ne_zero h)
  have high : (d.digits : ℚ) < 10 ^ (decimalDigits d.digits).length := by
    exact_mod_cast lt_pow_length_decimalDigits d.digits
  unfold leadingPosition value
  constructor
  · rw [zpow_sub₀ (by norm_num), zpow_add₀ (by norm_num), zpow_natCast, zpow_one,
      div_le_iff₀ (by norm_num)]
    nlinarith
  · rw [zpow_add₀ (by norm_num), zpow_natCast]
    exact mul_lt_mul_of_pos_right high he

theorem value_strip (d : Decimal) : d.strip.value = d.value := by
  have go (fuel n : ℕ) (e : ℤ) : (strip.go fuel n e).value = n * 10 ^ e := by
    induction fuel generalizing n e with
    | zero => rfl
    | succ fuel ih =>
      rw [strip.go]
      split
      · rename_i h
        have hn : (n : ℚ) = (n / 10 : ℕ) * 10 := by
          exact_mod_cast (Nat.div_mul_cancel (Nat.dvd_of_mod_eq_zero h.2)).symm
        rw [ih, hn, zpow_add_one₀ (by norm_num)]
        ring
      · rfl
  exact go _ d.digits d.exponent

end Decimal
end MetricRelay
