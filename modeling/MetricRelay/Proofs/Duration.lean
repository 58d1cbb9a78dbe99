import Mathlib.Data.Ordering.Basic
import Mathlib.Tactic.SplitIfs
import MetricRelay.Duration

/-!
# Durations as numbers of nanoseconds

A duration is compared by its nanoseconds (`Duration.compare_eq`), although whole seconds and the
rest are compared one after the other.  So the operations on durations are those on naturals:
multiplying is exact up to the longest duration (`Duration.totalNanos_saturatingMul`), whatever
is carried over on the way.
-/

namespace MetricRelay
namespace Duration

theorem totalNanos_longest : longest.totalNanos + 1 = UInt64.size * nanosPerSecond := by decide

theorem totalNanos_le_longest (d : Duration) : d.totalNanos ≤ longest.totalNanos := by
  have hl := totalNanos_longest
  have hs := d.secs.toNat_lt_size
  have hn := d.nanos_lt
  unfold totalNanos nanosPerSecond UInt64.size at *
  omega

/-! ### The order -/

/-- Whole seconds decide, and the rest only between equal ones. -/
theorem compare_eq (a b : Duration) : compare a b = compare a.totalNanos b.totalNanos := by
  have ha := a.nanos_lt
  have hb := b.nanos_lt
  have eq : compare a b = (compare a.secs b.secs).then (compare a.nanos b.nanos) := rfl
  rw [eq]
  unfold totalNanos nanosPerSecond at *
  cases hs : compare a.secs b.secs with
  | lt =>
    have hs := UInt64.lt_iff_toNat_lt.1 (Std.compare_eq_lt.1 hs)
    exact (Nat.compare_eq_lt.2 (by omega)).symm
  | gt =>
    have hs := UInt64.lt_iff_toNat_lt.1 (Std.compare_eq_gt.1 hs)
    exact (Nat.compare_eq_gt.2 (by omega)).symm
  | eq =>
    rw [Std.LawfulEqCmp.eq_of_compare hs]
    cases hn : compare a.nanos b.nanos with
    | lt =>
      have hn := UInt32.lt_iff_toNat_lt.1 (Std.compare_eq_lt.1 hn)
      exact (Nat.compare_eq_lt.2 (by omega)).symm
    | gt =>
      have hn := UInt32.lt_iff_toNat_lt.1 (Std.compare_eq_gt.1 hn)
      exact (Nat.compare_eq_gt.2 (by omega)).symm
    | eq =>
      rw [Std.LawfulEqCmp.eq_of_compare hn]
      exact (Nat.compare_eq_eq.2 rfl).symm

theorem compare_eq_lt_iff {a b : Duration} : compare a b = .lt ↔ a.totalNanos < b.totalNanos := by
  rw [compare_eq, Nat.compare_eq_lt]

theorem compare_eq_gt_iff {a b : Duration} : compare a b = .gt ↔ b.totalNanos < a.totalNanos := by
  rw [compare_eq, Nat.compare_eq_gt]

theorem totalNanos_max (a b : Duration) :
    (a.max b).totalNanos = max a.totalNanos b.totalNanos := by
  unfold Duration.max
  split_ifs with h <;> rw [compare_eq_gt_iff] at h <;> omega

/-- Between bounds in order, a duration is moved to the closest place. -/
theorem totalNanos_clamp (d : Duration) {least greatest : Duration}
    (ordered : compare least greatest ≠ .gt) :
    (d.clamp least greatest).totalNanos =
      max least.totalNanos (min greatest.totalNanos d.totalNanos) := by
  rw [ne_eq, compare_eq_gt_iff] at ordered
  unfold clamp
  split_ifs with low high
  · rw [compare_eq_lt_iff] at low
    omega
  · rw [compare_eq_gt_iff] at high
    omega
  · rw [compare_eq_lt_iff] at low
    rw [compare_eq_gt_iff] at high
    omega

/-! ### Multiplying -/

/-- Carrying over makes no difference unless there are too many seconds. -/
theorem totalNanos_carry? (secs nanos : Nat) :
    ((carry? secs nanos).getD longest).totalNanos =
      min longest.totalNanos (secs * nanosPerSecond + nanos) := by
  have hl := totalNanos_longest
  have split := Nat.div_add_mod nanos nanosPerSecond
  have rest : nanos % nanosPerSecond < nanosPerSecond := Nat.mod_lt _ (by decide)
  unfold carry?
  dsimp only
  split_ifs with h
  · have secs_eq : (secs + nanos / nanosPerSecond).toUInt64.toNat =
        secs + nanos / nanosPerSecond := UInt64.toNat_ofNat_of_lt' h
    have nanos_eq : (nanos % nanosPerSecond).toUInt32.toNat = nanos % nanosPerSecond :=
      UInt32.toNat_ofNat_of_lt' (Nat.lt_trans rest (by decide))
    rw [Option.getD_some, totalNanos, secs_eq, nanos_eq]
    unfold nanosPerSecond UInt64.size at *
    omega
  · rw [Option.getD_none]
    unfold nanosPerSecond UInt64.size at *
    omega

/-- A multiple is exact up to the longest duration. -/
theorem totalNanos_saturatingMul (d : Duration) (n : Nat) :
    (d.saturatingMul n).totalNanos = min longest.totalNanos (d.totalNanos * n) := by
  have parts : d.totalNanos * n = d.secs.toNat * n * nanosPerSecond + d.nanos.toNat * n := by
    rw [totalNanos, Nat.add_mul, Nat.mul_right_comm]
  rw [saturatingMul, totalNanos_carry?, parts]

end Duration
end MetricRelay
