import Mathlib.Order.Compare
import MetricRelay.Proofs.Number.Rounding

/-!
# Shortest decimals are near

Whatever grid the search for a shortest decimal ends with, what it finds is near the magnitude
(`Binary64.isNear_shortest`): a point of a grid was tested, and the exact value is near itself.
-/

namespace MetricRelay
namespace Binary64

/-! ### Comparing -/

/-- What is compared are the two numbers, both scaled by one factor. -/
theorem compareScaled_scale (a : ℕ) (i : ℤ) (n : ℕ) (j : ℤ) :
    ∃ c : ℚ, 0 < c ∧ ((a * pow10 i * pow2 (-j) : ℕ) : ℚ) = a * 10 ^ i * c ∧
      ((n * pow2 j * pow10 (-i) : ℕ) : ℚ) = n * 2 ^ j * c := by
  have h10 : (0 : ℚ) < pow10 (-i) := Nat.cast_pos.2 (pow10_pos _)
  have h2 : (0 : ℚ) < pow2 (-j) := Nat.cast_pos.2 (pow2_pos _)
  refine ⟨pow10 (-i) * pow2 (-j), mul_pos h10 h2, ?_, ?_⟩
  · rw [Nat.cast_mul, Nat.cast_mul, pow10_eq i]
    ring
  · rw [Nat.cast_mul, Nat.cast_mul, pow2_eq j]
    ring

theorem compareScaled_eq_lt_iff (a : ℕ) (i : ℤ) (n : ℕ) (j : ℤ) :
    compareScaled a i n j = .lt ↔ (a : ℚ) * 10 ^ i < n * 2 ^ j := by
  obtain ⟨c, hc, ha, hn⟩ := compareScaled_scale a i n j
  rw [compareScaled, compare_lt_iff_lt, ← Nat.cast_lt (α := ℚ), ha, hn,
    mul_lt_mul_iff_of_pos_right hc]

theorem compareScaled_eq_gt_iff (a : ℕ) (i : ℤ) (n : ℕ) (j : ℤ) :
    compareScaled a i n j = .gt ↔ (n : ℚ) * 2 ^ j < a * 10 ^ i := by
  obtain ⟨c, hc, ha, hn⟩ := compareScaled_scale a i n j
  rw [compareScaled, compare_gt_iff_gt, ← Nat.cast_lt (α := ℚ), ha, hn,
    mul_lt_mul_iff_of_pos_right hc]

theorem compareScaled_eq_eq_iff (a : ℕ) (i : ℤ) (n : ℕ) (j : ℤ) :
    compareScaled a i n j = .eq ↔ (a : ℚ) * 10 ^ i = n * 2 ^ j := by
  obtain ⟨c, hc, ha, hn⟩ := compareScaled_scale a i n j
  rw [compareScaled, compare_eq_iff_eq, ← Nat.cast_inj (R := ℚ), ha, hn,
    mul_left_inj' hc.ne']

/-! ### Near decimals -/

theorem isNear_of_readsBack {x : Binary64} {d : Decimal} (h : x.readsBack d = true) :
    x.IsNear d.value := by
  unfold readsBack at h
  simp only [Bool.and_eq_true, Bool.or_eq_true, beq_iff_eq, compareScaled_eq_lt_iff,
    compareScaled_eq_gt_iff, compareScaled_eq_eq_iff] at h
  obtain ⟨low, high⟩ := h
  refine ⟨?_, ?_, ?_⟩
  · rcases low with low | ⟨-, low⟩
    · exact low.le
    · exact low.ge
  · rcases high with high | ⟨-, high⟩
    · exact high.le
    · exact high.le
  · rintro (hv | hv)
    · rcases low with low | ⟨even, -⟩
      · exact absurd hv low.ne'
      · exact even
    · rcases high with high | ⟨even, -⟩
      · exact absurd hv high.ne
      · exact even

theorem readsBack_of_onGrid? {tie : Tie} {x : Binary64} {e : ℤ} {d : Decimal}
    (h : onGrid? tie x e = some d) : x.readsBack d = true := by
  unfold onGrid? at h
  dsimp only at h
  -- whichever of the two points is the answer, its own test came out true
  split at h
  · cases h
  · rename_i hb _
    cases h
    exact hb
  · rename_i ha
    cases h
    exact ha
  · rename_i hb ha
    split at h
    · cases h
      exact hb
    · cases h
      exact ha
    · split at h
      · split at h
        · cases h
          exact hb
        · cases h
          exact ha
      · cases h
        exact ha

/-- A magnitude is near itself. -/
theorem isNear_value {x : Binary64} (positive : 0 < x.significand) : x.IsNear x.value := by
  have hu : (0 : ℚ) < 2 ^ x.exponent := by positivity
  have low : x.lowerEnd * (2 : ℚ) ^ (x.exponent - 2) < x.value := by
    rw [lowerEnd_mul positive, value]
    refine mul_lt_mul_of_pos_right ?_ hu
    split <;> linarith
  have high : x.value < x.upperEnd * (2 : ℚ) ^ (x.exponent - 2) := by
    rw [upperEnd_mul, value]
    exact mul_lt_mul_of_pos_right (by linarith) hu
  refine ⟨low.le, high.le, ?_⟩
  rintro (h | h)
  · exact absurd h low.ne'
  · exact absurd h high.ne

theorem value_exactDecimal (x : Binary64) : x.exactDecimal.value = x.value := by
  unfold exactDecimal Decimal.value value
  split
  · rename_i h
    have hn : pow2 (-x.exponent) = 1 := by
      unfold pow2
      rw [Int.toNat_of_nonpos (by omega), Nat.pow_eq, Nat.pow_zero]
    rw [Nat.cast_mul, pow2_eq, hn]
    simp
  · obtain ⟨n, hn⟩ : ∃ n : ℕ, x.exponent = -n := ⟨(-x.exponent).toNat, by omega⟩
    have h10 : (10 : ℚ) ^ n = 5 ^ n * 2 ^ n := by rw [← mul_pow]; norm_num
    have hp : ((Nat.pow 5 n : ℕ) : ℚ) = 5 ^ n := Nat.cast_pow 5 n
    rw [hn, neg_neg, Int.toNat_natCast, Nat.cast_mul, hp, zpow_neg, zpow_neg, zpow_natCast,
      zpow_natCast, h10]
    field_simp

/-- **The shortest decimal is near the magnitude.** -/
theorem isNear_shortest (tie : Tie) {x : Binary64} (positive : 0 < x.significand) :
    x.IsNear (x.shortest tie).value := by
  have hm : x.magnitude ≠ 0 := fun h => positive.ne' (x.magnitude_eq_zero_iff.1 h)
  unfold shortest
  rw [if_neg hm]
  dsimp only
  rw [Decimal.value_strip]
  -- the exact value stands in if no grid has a point that reads back
  cases hg : (List.range 17).findSome? fun n =>
      onGrid? tie x (x.decimalPosition - (n + 1 : ℕ)) with
  | none =>
    rw [Option.getD_none, value_exactDecimal]
    exact isNear_value positive
  | some d =>
    obtain ⟨n, -, hd⟩ := List.exists_of_findSome?_eq_some hg
    exact isNear_of_readsBack (readsBack_of_onGrid? hd)

theorem shortest_of_zero (tie : Tie) {x : Binary64} (zero : x.magnitude = 0) :
    x.shortest tie = ⟨0, 0⟩ := by
  rw [shortest, if_pos zero]

/-- There are no zeros behind a zero. -/
theorem exponent_shortest (tie : Tie) {x : Binary64} (h : (x.shortest tie).digits = 0) :
    (x.shortest tie).exponent = 0 := by
  rcases Nat.eq_zero_or_pos x.significand with hm | positive
  · rw [shortest_of_zero tie (x.magnitude_eq_zero_iff.2 hm)]
  · have := (isNear_shortest tie positive).pos positive
    rw [(Decimal.value_eq_zero_iff _).2 h] at this
    exact absurd this (lt_irrefl 0)

end Binary64
end MetricRelay
