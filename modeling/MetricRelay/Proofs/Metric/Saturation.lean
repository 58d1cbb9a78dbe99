import Mathlib.Algebra.BigOperators.Group.List.Basic
import Mathlib.Algebra.Order.BigOperators.Group.List
import Mathlib.Algebra.Ring.Int.Defs
import MetricRelay.Metric.Value

/-!
# Sums that saturate

Adding integers of 64 bits stops at the ends of their range, step by step.  In general the result
depends on the order of the addends: what is lost at one end does not come back on the way to the
other.  There are two ways to be sure of it.  If no partial sum leaves the range, nothing is lost
(`toInt_foldl_saturatingAdd`); and if no addend is negative, all that can be lost is what lies
beyond the end of the range (`toInt_foldl_saturatingAdd_of_nonneg`), whatever the order.
-/

namespace MetricRelay

/-- The integer is one of 64 bits. -/
def IsInRange (i : Int) : Prop := -2 ^ 63 ≤ i ∧ i ≤ 2 ^ 63 - 1

instance (i : Int) : Decidable (IsInRange i) :=
  inferInstanceAs (Decidable (-2 ^ 63 ≤ i ∧ i ≤ 2 ^ 63 - 1))

/-- The sum without any bounds. -/
def exactSum (is : List Int64) : Int := (is.map Int64.toInt).sum

@[simp] theorem exactSum_nil : exactSum [] = 0 := rfl

@[simp] theorem exactSum_cons (i : Int64) (is : List Int64) :
    exactSum (i :: is) = i.toInt + exactSum is := by
  simp [exactSum]

theorem exactSum_perm {is is' : List Int64} (perm : is.Perm is') : exactSum is = exactSum is' :=
  (perm.map Int64.toInt).sum_eq

theorem exactSum_nonneg {is : List Int64} (nonneg : ∀ i ∈ is, 0 ≤ i.toInt) : 0 ≤ exactSum is :=
  List.sum_nonneg (by simpa using nonneg)

/-- A sum is brought back into the range of its addends. -/
theorem toInt_saturatingAdd (i j : Int64) :
    (saturatingAdd i j).toInt = max (-2 ^ 63) (min (2 ^ 63 - 1) (i.toInt + j.toInt)) := by
  have hmax : Int64.maxValue.toInt = 2 ^ 63 - 1 := rfl
  have hmin : Int64.minValue.toInt = -2 ^ 63 := rfl
  rw [saturatingAdd, Int64.toInt_ofInt_of_le, hmax, hmin] <;> omega

/-- As long as no partial sum leaves the range, the sum is exact. -/
theorem toInt_foldl_saturatingAdd {start : Int64} {is : List Int64}
    (inRange : ∀ before, before <+: is → IsInRange (start.toInt + exactSum before)) :
    (is.foldl saturatingAdd start).toInt = start.toInt + exactSum is := by
  induction is generalizing start with
  | nil => simp
  | cons i is ih =>
    have first : (saturatingAdd start i).toInt = start.toInt + i.toInt := by
      have := inRange [i] (List.prefix_append [i] is)
      rw [exactSum_cons, exactSum_nil, IsInRange] at this
      rw [toInt_saturatingAdd]
      omega
    rw [List.foldl_cons, ih, first, exactSum_cons, Int.add_assoc]
    intro before hb
    have := inRange (i :: before) ((List.prefix_cons_inj i).2 hb)
    rwa [exactSum_cons, ← Int.add_assoc, ← first] at this

/-- Where nothing is negative, the sum only misses what lies beyond the end of the range. -/
theorem toInt_foldl_saturatingAdd_of_nonneg {start : Int64} {is : List Int64}
    (start_nonneg : 0 ≤ start.toInt) (nonneg : ∀ i ∈ is, 0 ≤ i.toInt) :
    (is.foldl saturatingAdd start).toInt = min (start.toInt + exactSum is) (2 ^ 63 - 1) := by
  induction is generalizing start with
  | nil =>
    have := start.toInt_lt
    rw [List.foldl_nil, exactSum_nil]
    omega
  | cons i is ih =>
    obtain ⟨hi, nonneg⟩ := List.forall_mem_cons.1 nonneg
    have first := toInt_saturatingAdd start i
    have rest := exactSum_nonneg nonneg
    rw [List.foldl_cons, ih (by omega) nonneg, first, exactSum_cons]
    omega

end MetricRelay
