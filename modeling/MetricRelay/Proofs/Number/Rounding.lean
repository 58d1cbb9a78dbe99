import Mathlib.Tactic.Linarith
import MetricRelay.Number.Shortest
import MetricRelay.Proofs.Number.Decimal

/-!
# What rounds to a value

The numbers next to a magnitude `m * 2 ^ q` reach half a unit up and half a unit down, or a
quarter of a unit down if `m` is a power of two and the magnitudes below stand closer
(`Binary64.IsNear`).  Rounding takes all of them to the magnitude
(`Binary64.nearestMagnitude_eq`), and so does reading of a decimal
(`Decimal.toBinary64_eq`).

The only way that rounding counts in another unit than that of the magnitude is from below a
power of two.  Then the unit is half as large, and the count rounds up to twice the power.
-/

namespace MetricRelay

/-! ### Quotients -/

/-- A quotient within half of a natural rounds to it; if it is just half off, the natural has to
be even. -/
theorem roundHalfEven_eq {num den k : ℕ} (positive : 0 < den)
    (low : (k : ℚ) - 1 / 2 ≤ num / den) (high : (num : ℚ) / den ≤ k + 1 / 2)
    (tie : (num : ℚ) / den = k - 1 / 2 ∨ (num : ℚ) / den = k + 1 / 2 → k % 2 = 0) :
    roundHalfEven num den = k := by
  have hd : (0 : ℚ) < den := Nat.cast_pos.2 positive
  have low' : 2 * (k * den) ≤ 2 * num + den := by
    rw [le_div_iff₀ hd] at low
    have : 2 * ((k : ℚ) * den) ≤ 2 * num + den := by linarith
    exact_mod_cast this
  have high' : 2 * num ≤ 2 * (k * den) + den := by
    rw [div_le_iff₀ hd] at high
    have : 2 * (num : ℚ) ≤ 2 * (k * den) + den := by linarith
    exact_mod_cast this
  have tie' : 2 * (k * den) = 2 * num + den ∨ 2 * num = 2 * (k * den) + den → k % 2 = 0 := by
    rintro (h | h)
    · refine tie (.inl ?_)
      have : 2 * ((k : ℚ) * den) = 2 * num + den := by exact_mod_cast h
      rw [div_eq_iff hd.ne']
      linarith
    · refine tie (.inr ?_)
      have : 2 * (num : ℚ) = 2 * (k * den) + den := by exact_mod_cast h
      rw [div_eq_iff hd.ne']
      linarith
  -- the natural is the quotient rounded down or the next one
  have hdm : num / den * den + num % den = num := Nat.div_add_mod' num den
  have hr : num % den < den := Nat.mod_lt num positive
  have hk : k = num / den ∨ k = num / den + 1 := by
    have h1 : num / den ≤ k := by
      by_contra hlt
      have := Nat.mul_le_mul_right den (show k + 1 ≤ num / den by omega)
      rw [Nat.add_mul] at this
      omega
    have h2 : k ≤ num / den + 1 := by
      by_contra hlt
      have := Nat.mul_le_mul_right den (show num / den + 2 ≤ k by omega)
      rw [Nat.add_mul] at this
      omega
    omega
  unfold roundHalfEven
  dsimp only
  rcases hk with rfl | rfl
  · split
    · rfl
    · split
      · omega
      · rw [if_pos (tie' (by omega))]
  · rw [Nat.add_mul] at low' high' tie'
    split
    · omega
    · split
      · rfl
      · have := tie' (by omega)
        rw [if_neg (by omega)]

/-- The binary logarithm of a ratio, rounded down. -/
theorem floorLog2_spec {num den : ℕ} (hn : 0 < num) (hd : 0 < den) :
    (2 : ℚ) ^ floorLog2 num den ≤ num / den ∧
      (num : ℚ) / den < 2 ^ (floorLog2 num den + 1) := by
  have hdq : (0 : ℚ) < den := Nat.cast_pos.2 hd
  have n1 : (2 : ℚ) ^ num.log2 ≤ num := by exact_mod_cast Nat.log2_self_le hn.ne'
  have n2 : (num : ℚ) < 2 ^ (num.log2 + 1) := by exact_mod_cast Nat.lt_log2_self
  have d1 : (2 : ℚ) ^ den.log2 ≤ den := by exact_mod_cast Nat.log2_self_le hd.ne'
  have d2 : (den : ℚ) < 2 ^ (den.log2 + 1) := by exact_mod_cast Nat.lt_log2_self
  -- the difference of the logarithms is right or too large by one
  let e : ℤ := (num.log2 : ℤ) - den.log2
  have high : (num : ℚ) / den < 2 ^ (e + 1) := by
    have he : (2 : ℚ) ^ (e + 1) * 2 ^ den.log2 = 2 ^ (num.log2 + 1) := by
      rw [← zpow_natCast, ← zpow_natCast, ← zpow_add₀ (by norm_num)]
      congr 1
      push_cast
      omega
    rw [div_lt_iff₀ hdq]
    calc (num : ℚ) < 2 ^ (e + 1) * 2 ^ den.log2 := by rwa [he]
      _ ≤ 2 ^ (e + 1) * den := by gcongr
  have low : (2 : ℚ) ^ (e - 1) ≤ num / den := by
    have he : (2 : ℚ) ^ (e - 1) * 2 ^ (den.log2 + 1) = 2 ^ num.log2 := by
      rw [← zpow_natCast, ← zpow_natCast, ← zpow_add₀ (by norm_num)]
      congr 1
      push_cast
      omega
    rw [le_div_iff₀ hdq]
    calc (2 : ℚ) ^ (e - 1) * den ≤ 2 ^ (e - 1) * 2 ^ (den.log2 + 1) := by gcongr
      _ ≤ num := by rwa [he]
  have hc : den * pow2 e ≤ num * pow2 (-e) ↔ (2 : ℚ) ^ e ≤ num / den := by
    have hp : (0 : ℚ) < pow2 (-e) := Nat.cast_pos.2 (pow2_pos _)
    rw [le_div_iff₀ hdq, ← Nat.cast_le (α := ℚ), Nat.cast_mul, Nat.cast_mul, pow2_eq e,
      ← mul_assoc, mul_le_mul_iff_of_pos_right hp, mul_comm]
  unfold floorLog2
  dsimp only
  split
  · rename_i h
    exact ⟨hc.1 h, high⟩
  · rename_i h
    rw [sub_add_cancel]
    exact ⟨low, not_le.1 fun h' => h (hc.2 h')⟩

namespace Binary64

/-- A ratio within half a unit of a natural number of units is rounded to this number. -/
theorem inUnits_eq {num den k : ℕ} {q : ℤ} (hd : 0 < den)
    (low : ((k : ℚ) - 1 / 2) * 2 ^ q ≤ num / den) (high : (num : ℚ) / den ≤ (k + 1 / 2) * 2 ^ q)
    (tie : (num : ℚ) / den = (k - 1 / 2) * 2 ^ q ∨ (num : ℚ) / den = (k + 1 / 2) * 2 ^ q →
      k % 2 = 0) :
    inUnits num den q = k := by
  have hq : (0 : ℚ) < 2 ^ q := by positivity
  have hy : ((num * pow2 (-q) : ℕ) : ℚ) / ((den * pow2 q : ℕ) : ℚ) = num / den / 2 ^ q := by
    have hdq : (den : ℚ) ≠ 0 := Nat.cast_ne_zero.2 hd.ne'
    have hp : (pow2 (-q) : ℚ) ≠ 0 := Nat.cast_ne_zero.2 (pow2_pos _).ne'
    rw [Nat.cast_mul, Nat.cast_mul, pow2_eq q]
    field_simp
  refine roundHalfEven_eq (Nat.mul_pos hd (pow2_pos q)) ?_ ?_ ?_
  · rwa [hy, le_div_iff₀ hq]
  · rwa [hy, div_le_iff₀ hq]
  · rwa [hy, div_eq_iff hq.ne', div_eq_iff hq.ne']

/-! ### Magnitudes -/

/-- The bits of a magnitude are the count of units and the number of the unit. -/
theorem magnitude_eq (x : Binary64) :
    x.magnitude = x.significand + (x.exponent + 1074).toNat * hiddenBit := by
  unfold significand exponent hiddenBit
  split <;> omega

theorem significand_lt (x : Binary64) : x.significand < 2 * hiddenBit := by
  unfold significand hiddenBit
  split <;> omega

theorem le_exponent (x : Binary64) : -1074 ≤ x.exponent := by
  unfold exponent hiddenBit
  split <;> omega

theorem exponent_le {x : Binary64} (finite : x.isFinite = true) : x.exponent ≤ 971 := by
  have hm : x.magnitude < infinityBits := of_decide_eq_true finite
  unfold infinityBits at hm
  unfold exponent hiddenBit
  split <;> omega

/-- Only the smallest unit counts less than a full significand. -/
theorem hiddenBit_le_significand {x : Binary64} (h : -1074 < x.exponent) :
    hiddenBit ≤ x.significand := by
  unfold exponent at h
  unfold significand
  split at h
  · omega
  · rename_i large
    rw [if_neg large]
    omega

theorem isNarrowBelow_iff (x : Binary64) :
    x.isNarrowBelow = true ↔ x.significand = hiddenBit ∧ -1074 < x.exponent := by
  unfold isNarrowBelow significand exponent
  rw [Bool.and_eq_true, beq_iff_eq, decide_eq_true_eq]
  unfold hiddenBit
  split <;> omega

theorem magnitude_eq_zero_iff (x : Binary64) : x.magnitude = 0 ↔ x.significand = 0 := by
  unfold significand hiddenBit
  split <;> omega

theorem ofMagnitude_magnitude (x : Binary64) : ofMagnitude x.isNegative x.magnitude = x := by
  have hx := x.bits.toNat_lt
  have hm : (if x.isNegative then signBit + x.magnitude else x.magnitude) = x.bits.toNat := by
    unfold isNegative magnitude signBit
    simp only [decide_eq_true_eq]
    split <;> omega
  rw [ofMagnitude, hm, UInt64.ofNat_toNat]

/-- The number that the magnitude stands for. -/
def value (x : Binary64) : ℚ := x.significand * 2 ^ x.exponent

/-- The number is closer to the magnitude than to any other, or halfway to another one while the
significand is even. -/
structure IsNear (x : Binary64) (v : ℚ) : Prop where
  low : x.lowerEnd * 2 ^ (x.exponent - 2) ≤ v
  high : v ≤ x.upperEnd * 2 ^ (x.exponent - 2)
  even : v = x.lowerEnd * 2 ^ (x.exponent - 2) ∨ v = x.upperEnd * 2 ^ (x.exponent - 2) →
    x.significand % 2 = 0

theorem two_zpow_add (q : ℤ) (n : ℕ) : (2 : ℚ) ^ (q + n) = 2 ^ n * 2 ^ q := by
  rw [zpow_add₀ (by norm_num), zpow_natCast, mul_comm]

theorem two_zpow_sub (q : ℤ) (n : ℕ) : (2 : ℚ) ^ (q - n) = 2 ^ q / 2 ^ n := by
  rw [zpow_sub₀ (by norm_num), zpow_natCast]

theorem cast_hiddenBit : (hiddenBit : ℚ) = 2 ^ 52 := by
  norm_num [hiddenBit]

theorem upperEnd_mul (x : Binary64) :
    x.upperEnd * (2 : ℚ) ^ (x.exponent - 2) = (x.significand + 1 / 2) * 2 ^ x.exponent := by
  have := two_zpow_sub x.exponent 2
  push_cast at this
  rw [upperEnd, this]
  push_cast
  ring

theorem lowerEnd_mul {x : Binary64} (positive : 0 < x.significand) :
    x.lowerEnd * (2 : ℚ) ^ (x.exponent - 2) =
      (x.significand - if x.isNarrowBelow then 1 / 4 else 1 / 2) * 2 ^ x.exponent := by
  have := two_zpow_sub x.exponent 2
  push_cast at this
  rw [lowerEnd, this]
  split
  · rw [Nat.cast_sub (by omega)]
    push_cast
    ring
  · rw [Nat.cast_sub (by omega)]
    push_cast
    ring

theorem IsNear.half_le {x : Binary64} {v : ℚ} (h : x.IsNear v) (positive : 0 < x.significand) :
    (x.significand - 1 / 2) * 2 ^ x.exponent ≤ v := by
  have hu : (0 : ℚ) < 2 ^ x.exponent := by positivity
  have := h.low
  rw [lowerEnd_mul positive] at this
  split at this
  · nlinarith
  · exact this

theorem IsNear.pos {x : Binary64} {v : ℚ} (h : x.IsNear v) (positive : 0 < x.significand) :
    0 < v := by
  have hm : (1 : ℚ) ≤ x.significand := by exact_mod_cast positive
  refine lt_of_lt_of_le ?_ (h.half_le positive)
  have : (0 : ℚ) < x.significand - 1 / 2 := by linarith
  positivity

theorem IsNear.lt_binade {x : Binary64} {v : ℚ} (h : x.IsNear v) :
    v < 2 ^ (x.exponent + 53) := by
  have hu : (0 : ℚ) < 2 ^ x.exponent := by positivity
  have hm : (x.significand : ℚ) + 1 ≤ 2 * 2 ^ 52 := by
    rw [← cast_hiddenBit]
    exact_mod_cast x.significand_lt
  have hs := two_zpow_add x.exponent 53
  push_cast at hs
  refine lt_of_le_of_lt h.high ?_
  rw [upperEnd_mul, hs]
  exact mul_lt_mul_of_pos_right (by linarith) hu

/-- **What is near a finite magnitude is rounded to it.** -/
theorem nearestMagnitude_eq {x : Binary64} (finite : x.isFinite = true)
    (positive : 0 < x.significand) {num den : ℕ} (hd : 0 < den)
    (near : x.IsNear ((num : ℚ) / den)) : nearestMagnitude num den = x.magnitude := by
  have hu : (0 : ℚ) < 2 ^ x.exponent := by positivity
  have hn : 0 < num := by
    rcases Nat.eq_zero_or_pos num with rfl | hn
    · simpa using near.pos positive
    · exact hn
  have hinf : x.magnitude < infinityBits := of_decide_eq_true finite
  have hle := x.le_exponent
  obtain ⟨low, high⟩ := floorLog2_spec hn hd
  have below : floorLog2 num den < x.exponent + 53 :=
    (zpow_lt_zpow_iff_right₀ (by norm_num)).1 (lt_of_le_of_lt low near.lt_binade)
  unfold nearestMagnitude
  rw [if_neg hn.ne']
  dsimp only
  by_cases hq : unitExponent num den = x.exponent
  · -- the units are those of the magnitude
    have hk : inUnits num den x.exponent = x.significand := by
      refine inUnits_eq hd (near.half_le positive) ?_ ?_
      · rw [← upperEnd_mul]
        exact near.high
      · rintro (h | h)
        · by_cases narrow : x.isNarrowBelow = true
          · -- half a unit down is out of reach here
            have := near.low
            rw [lowerEnd_mul positive, if_pos narrow, h] at this
            nlinarith
          · refine near.even (.inl ?_)
            rw [lowerEnd_mul positive, if_neg narrow, h]
        · refine near.even (.inr ?_)
          rw [upperEnd_mul, h]
    rw [hq, hk, ← magnitude_eq]
    exact Nat.min_eq_left hinf.le
  · -- the ratio lies below a power of two to which it is rounded
    have hlt : -1074 < x.exponent ∧ floorLog2 num den + 1 ≤ x.exponent + 52 := by
      unfold unitExponent at hq
      omega
    have hs := two_zpow_add x.exponent 52
    push_cast at hs
    have hv : (num : ℚ) / den < 2 ^ 52 * 2 ^ x.exponent := by
      rw [← hs]
      exact lt_of_lt_of_le high (zpow_le_zpow_right₀ (by norm_num) hlt.2)
    have hm : x.significand = hiddenBit := by
      refine le_antisymm ?_ (hiddenBit_le_significand hlt.1)
      have := lt_of_le_of_lt (near.half_le positive) hv
      have : (x.significand : ℚ) - 1 / 2 < 2 ^ 52 := lt_of_mul_lt_mul_right this hu.le
      rw [← cast_hiddenBit] at this
      have : (x.significand : ℚ) < hiddenBit + 1 := by linarith
      exact Nat.lt_succ_iff.1 (by exact_mod_cast this)
    have narrow : x.isNarrowBelow = true := x.isNarrowBelow_iff.2 ⟨hm, hlt.1⟩
    have quarter : ((2 : ℚ) ^ 52 - 1 / 4) * 2 ^ x.exponent ≤ num / den := by
      have := near.low
      rwa [lowerEnd_mul positive, if_pos narrow, hm, cast_hiddenBit] at this
    have above : x.exponent + 51 < floorLog2 num den + 1 := by
      refine (zpow_lt_zpow_iff_right₀ (show (1 : ℚ) < 2 by norm_num)).1 (lt_of_le_of_lt ?_ high)
      have hs' := two_zpow_add x.exponent 51
      push_cast at hs'
      rw [hs']
      nlinarith
    have hunit : unitExponent num den = x.exponent - 1 := by
      unfold unitExponent
      omega
    have hk : inUnits num den (x.exponent - 1) = 2 * hiddenBit := by
      have hs' := two_zpow_sub x.exponent 1
      push_cast at hs'
      refine inUnits_eq hd ?_ ?_ fun _ => Nat.mul_mod_right 2 _
      · rw [hs', Nat.cast_mul, cast_hiddenBit]
        push_cast
        linarith
      · rw [hs', Nat.cast_mul, cast_hiddenBit]
        push_cast
        linarith
    have hx := x.magnitude_eq
    rw [hunit, hk, Nat.min_eq_left]
    · rw [hx, hm]
      unfold hiddenBit
      omega
    · rw [hx, hm] at hinf
      unfold hiddenBit infinityBits at hinf ⊢
      omega

end Binary64

namespace Decimal

open Binary64 (IsNear)

/-- No decimal near a finite magnitude is so large that it is not looked at. -/
theorem leadingPosition_le {d : Decimal} {x : Binary64} (finite : x.isFinite = true)
    (near : x.IsNear d.value) (h : d.digits ≠ 0) : d.leadingPosition ≤ 310 := by
  have hlt : (10 : ℚ) ^ (d.leadingPosition - 1) < 10 ^ (309 : ℤ) := by
    calc (10 : ℚ) ^ (d.leadingPosition - 1) ≤ d.value := (value_bounds h).1
      _ < 2 ^ (x.exponent + 53) := near.lt_binade
      _ ≤ 2 ^ (1024 : ℤ) := by
        have := Binary64.exponent_le finite
        exact zpow_le_zpow_right₀ (by norm_num) (by omega)
      _ ≤ 10 ^ (309 : ℤ) := by
        have : 2 ^ 1024 ≤ 10 ^ 309 := by decide +kernel
        exact_mod_cast this
  have := (zpow_lt_zpow_iff_right₀ (show (1 : ℚ) < 10 by norm_num)).1 hlt
  omega

/-- No decimal near a magnitude that is not zero is so small that it is not looked at. -/
theorem le_leadingPosition {d : Decimal} {x : Binary64} (positive : 0 < x.significand)
    (near : x.IsNear d.value) (h : d.digits ≠ 0) : -330 ≤ d.leadingPosition := by
  have hm : (1 : ℚ) ≤ x.significand := by exact_mod_cast positive
  have hlt : (10 : ℚ) ^ (-330 : ℤ) < 10 ^ d.leadingPosition := by
    calc (10 : ℚ) ^ (-330 : ℤ) ≤ 2 ^ (-1075 : ℤ) := by
          have : 2 ^ 1075 ≤ 10 ^ 330 := by decide +kernel
          rw [zpow_neg, zpow_neg]
          exact inv_anti₀ (by positivity) (by exact_mod_cast this)
      _ ≤ 2 ^ (x.exponent - 1) := by
        have := x.le_exponent
        exact zpow_le_zpow_right₀ (by norm_num) (by omega)
      _ = 1 / 2 * 2 ^ x.exponent := by
        have := Binary64.two_zpow_sub x.exponent 1
        push_cast at this
        rw [this]
        ring
      _ ≤ (x.significand - 1 / 2) * 2 ^ x.exponent := by
        have hu : (0 : ℚ) < 2 ^ x.exponent := by positivity
        nlinarith
      _ ≤ d.value := near.half_le positive
      _ < 10 ^ d.leadingPosition := (value_bounds h).2
  have := (zpow_lt_zpow_iff_right₀ (show (1 : ℚ) < 10 by norm_num)).1 hlt
  omega

/-- **A decimal near a finite magnitude is read as the value with this magnitude.** -/
theorem toBinary64_eq {d : Decimal} {x : Binary64} (finite : x.isFinite = true)
    (positive : 0 < x.significand) (near : x.IsNear d.value) :
    d.toBinary64 x.isNegative = x := by
  have h : d.digits ≠ 0 := by
    rw [ne_eq, ← value_eq_zero_iff]
    exact (near.pos positive).ne'
  have hle := leadingPosition_le finite near h
  have hge := le_leadingPosition positive near h
  rw [value_eq_div] at near
  unfold toBinary64
  rw [if_neg h, if_neg (by omega), if_neg (by omega), Binary64.nearest,
    Binary64.nearestMagnitude_eq finite positive d.denominator_pos near]
  exact x.ofMagnitude_magnitude

/-- Zero is read as zero, with its sign. -/
theorem toBinary64_of_zero {d : Decimal} {x : Binary64} (h : d.digits = 0)
    (zero : x.magnitude = 0) : d.toBinary64 x.isNegative = x := by
  rw [toBinary64, if_pos h, ← zero]
  exact x.ofMagnitude_magnitude

end Decimal
end MetricRelay
