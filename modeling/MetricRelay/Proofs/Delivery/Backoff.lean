import Mathlib.Algebra.Ring.Nat
import MetricRelay.Delivery.Retry
import MetricRelay.Proofs.Duration

/-!
# Waits that double

An exponential wait is computed in two steps that may each meet the end of a range: the power of
two stops at the greatest 32-bit number, and the product at the longest duration.  Only the
first one is ever seen, because the product is moved between the shortest and the longest wait
afterwards.  So a wait in nanoseconds is what unbounded arithmetic gives
(`Backoff.totalNanos_wait`), whatever the order of the two waits.
-/

namespace MetricRelay
namespace Backoff

/-- How often the shortest wait is taken after an attempt, counted without a limit but the one on
the factor itself. -/
def multiplier (attempt : Nat) : Nat :=
  if attempt ≤ 1 then 1 else min (2 ^ (attempt - 1)) (2 ^ 32 - 1)

theorem one_le_multiplier (attempt : Nat) : 1 ≤ multiplier attempt := by
  unfold multiplier
  split_ifs
  · exact Nat.le_refl 1
  · exact Nat.le_min.2 ⟨Nat.one_le_two_pow, by decide⟩

theorem multiplier_le_of_le {earlier later : Nat} (h : earlier ≤ later) :
    multiplier earlier ≤ multiplier later := by
  by_cases first : earlier ≤ 1
  · rw [multiplier, if_pos first]
    exact one_le_multiplier later
  · have power : 2 ^ (earlier - 1) ≤ 2 ^ (later - 1) :=
      Nat.pow_le_pow_right (by decide) (Nat.sub_le_sub_right h 1)
    rw [multiplier, multiplier, if_neg first, if_neg (by omega)]
    omega

/-- Up to attempt 32 the power of two is below the limit, and from attempt 33 on it is above. -/
theorem factor_eq {attempt : UInt32} (later : ¬attempt ≤ 1) :
    factor attempt = multiplier attempt.toNat := by
  have later : ¬attempt.toNat ≤ 1 := fun le => later (UInt32.le_iff_toNat_le.2 le)
  unfold factor multiplier
  rw [if_neg later]
  split_ifs with small
  · rw [UInt32.le_iff_toNat_le] at small
    have power : 2 ^ (attempt.toNat - 1) ≤ 2 ^ 31 :=
      Nat.pow_le_pow_right (by decide) (Nat.sub_le_sub_right small 1)
    exact (Nat.min_eq_left (Nat.le_trans power (by decide))).symm
  · rw [UInt32.le_iff_toNat_le, Nat.not_le] at small
    have power : 2 ^ 32 ≤ 2 ^ (attempt.toNat - 1) :=
      Nat.pow_le_pow_right (by decide) (Nat.le_sub_one_of_lt small)
    exact (Nat.min_eq_right (Nat.le_trans (by decide) power)).symm

section Exponential

variable (shortest longest : Duration)

/-- The bounds between which a wait is moved are in order. -/
theorem compare_bounds : compare shortest (longest.max shortest) ≠ .gt := by
  rw [ne_eq, Duration.compare_eq_gt_iff, Duration.totalNanos_max]
  omega

/-- A wait is the exact multiple of the shortest one, or the greatest wait if that is less. -/
theorem totalNanos_wait (attempt : UInt32) :
    ((exponential shortest longest).wait attempt).totalNanos =
      min (max shortest.totalNanos longest.totalNanos)
        (shortest.totalNanos * multiplier attempt.toNat) := by
  by_cases first : attempt ≤ 1
  · have once : multiplier attempt.toNat = 1 := if_pos (UInt32.le_iff_toNat_le.1 first)
    rw [wait, if_pos first, once]
    omega
  · have multiple := Nat.mul_le_mul_left shortest.totalNanos (one_le_multiplier attempt.toNat)
    -- no wait is longer than the longest duration, so it is not seen that the product stops there
    have least := shortest.totalNanos_le_longest
    have greatest := longest.totalNanos_le_longest
    rw [wait, if_neg first, Duration.totalNanos_clamp _ (compare_bounds shortest longest),
      Duration.totalNanos_max, Duration.totalNanos_saturatingMul, factor_eq first]
    omega

/-- **Exponential waits are exact, bounded and never get shorter.**

* The bounds between which a wait is moved are in order, in whatever order they were given.
* A wait in nanoseconds is the smaller one of the greatest wait and the exact multiple of the
  shortest wait, it is a duration again, and it lies between these two waits.
* After a later attempt the wait is at least as long. -/
theorem exponential_wait_eq :
    let wait := (exponential shortest longest).wait
    let greatest := max shortest.totalNanos longest.totalNanos
    (compare shortest (longest.max shortest) ≠ .gt ∧
      (longest.max shortest).totalNanos = greatest) ∧
    (∀ attempt : UInt32,
      (wait attempt).totalNanos =
        min greatest (shortest.totalNanos * multiplier attempt.toNat) ∧
      (wait attempt).nanos.toNat < nanosPerSecond ∧
      shortest.totalNanos ≤ (wait attempt).totalNanos ∧
      (wait attempt).totalNanos ≤ greatest) ∧
    ∀ earlier later : UInt32, earlier ≤ later →
      (wait earlier).totalNanos ≤ (wait later).totalNanos := by
  intro wait greatest
  have exact_wait (attempt : UInt32) : (wait attempt).totalNanos =
      min greatest (shortest.totalNanos * multiplier attempt.toNat) :=
    totalNanos_wait shortest longest attempt
  refine ⟨⟨compare_bounds shortest longest, ?_⟩, fun attempt => ?_, fun earlier later le => ?_⟩
  · rw [Duration.totalNanos_max, Nat.max_comm]
  · have multiple : shortest.totalNanos ≤ shortest.totalNanos * multiplier attempt.toNat :=
      Nat.le_mul_of_pos_right _ (one_le_multiplier attempt.toNat)
    refine ⟨exact_wait attempt, (wait attempt).nanos_lt, ?_, ?_⟩
    · rw [exact_wait]
      exact Nat.le_min.2 ⟨Nat.le_max_left _ _, multiple⟩
    · rw [exact_wait]
      exact Nat.min_le_left _ _
  · have multiple := Nat.mul_le_mul_left shortest.totalNanos
      (multiplier_le_of_le (UInt32.le_iff_toNat_le.1 le))
    rw [exact_wait, exact_wait]
    exact Nat.le_min.2 ⟨Nat.min_le_left _ _, Nat.le_trans (Nat.min_le_right _ _) multiple⟩

end Exponential

/-- From one nanosecond to the longest duration: the factor stops growing after attempt 33. -/
theorem exponential_wait_eq_sample :
    let wait := (exponential ⟨0, 1, by decide⟩ .longest).wait
    (32 : UInt32) ≤ 33 ∧ (33 : UInt32) ≤ 34 ∧ (wait 32).totalNanos = 2147483648 ∧
      (wait 33).totalNanos = 4294967295 ∧ (wait 34).totalNanos = 4294967295 ∧
      (wait 32).totalNanos ≤ (wait 33).totalNanos ∧
      (wait 33).totalNanos ≤ (wait 34).totalNanos := by
  intro wait
  obtain ⟨-, waits, grows⟩ := exponential_wait_eq ⟨0, 1, by decide⟩ .longest
  have first : (32 : UInt32) ≤ 33 := by decide
  have second : (33 : UInt32) ≤ 34 := by decide
  exact ⟨first, second, (waits 32).1.trans (by decide), (waits 33).1.trans (by decide),
    (waits 34).1.trans (by decide), grows 32 33 first, grows 33 34 second⟩

end Backoff
end MetricRelay
