import Mathlib.Algebra.Ring.Nat
import Mathlib.Data.List.SplitBy
import MetricRelay.Metric.Histogram

/-!
# Changes of running totals

A tracker reports by how much a count has grown, or all of it if it went down.  The changes add
up: over counts that do not go down they come to the last one, and so over any counts they come
to the last ones of the longest such runs (`Tracker.changes_zero`).
-/

namespace MetricRelay
namespace Tracker

/-- By how much a count has grown, or all of it if it went down. -/
def change (last current : Nat) : Nat := if current < last then current else current - last

/-- The sum of the changes of counts, after a first one. -/
def changes (last : Nat) : List Nat → Nat
  | [] => 0
  | c :: cs => change last c + changes c cs

/-- The sum of the last counts of the longest runs in which counts do not go down. -/
def runTotal (counts : List Nat) : Nat :=
  ((counts.splitBy (· ≤ ·)).map (·.getLastD 0)).sum

/-- **The count that a tracker reports is the true difference**: the subtraction does not wrap
around. -/
theorem toNat_count_since (baseline current : Snapshot) :
    (since baseline current).1.count.toNat =
      change baseline.count.toNat current.count.toNat := by
  unfold since change
  by_cases h : current.count < baseline.count
  · rw [if_pos h, if_pos (UInt64.lt_iff_toNat_lt.1 h)]
  · rw [if_neg h, if_neg (mt UInt64.lt_iff_toNat_lt.2 h)]
    exact UInt64.toNat_sub_of_le _ _ (UInt64.not_lt.1 h)

/-! ### Bounds -/

theorem map_upperBound_bucketsSince (previous current : List Bucket) :
    (bucketsSince previous current).1.map (·.upperBound) = current.map (·.upperBound) := by
  rw [bucketsSince]
  split_ifs with empty aligned
  · rfl
  · have same_length : previous.length = current.length := by
      rw [sameLayout, Bool.and_eq_true] at aligned
      exact eq_of_beq aligned.1
    refine List.ext_getElem (by simp [same_length]) fun i _ _ => ?_
    simp
  · rfl

/-- Whatever a tracker reports, the bounds are those of the snapshot. -/
theorem map_upperBound_next (tracker : Tracker) (snapshot : Snapshot) :
    (tracker.next snapshot).2.1.buckets.map (·.upperBound) =
      snapshot.buckets.map (·.upperBound) := by
  cases tracker with
  | passthrough => rfl
  | delta baseline =>
    rw [next, since]
    split_ifs
    · rfl
    · exact map_upperBound_bucketsSince baseline.buckets snapshot.buckets

/-! ### Runs -/

/-- A count joins the run of the next one if that one is not lower. -/
theorem splitBy_of_le {c d : Nat} (h : c ≤ d) (ds : List Nat) :
    ∃ run runs, (d :: ds).splitBy (· ≤ ·) = (d :: run) :: runs ∧
      (c :: d :: ds).splitBy (· ≤ ·) = (c :: d :: run) :: runs := by
  obtain ⟨g, runs, hg⟩ : ∃ g runs, (d :: ds).splitBy (· ≤ ·) = g :: runs :=
    List.exists_cons_of_ne_nil (List.splitBy_ne_nil.2 (List.cons_ne_nil d ds))
  obtain ⟨flat, nonempty, chains, breaks⟩ := List.splitBy_eq_iff.1 hg
  -- the first run begins with the first count
  obtain ⟨run, rfl⟩ : ∃ run, g = d :: run := by
    cases g with
    | nil => exact absurd List.mem_cons_self nonempty
    | cons x run =>
      rw [List.flatten_cons, List.cons_append] at flat
      exact ⟨run, by rw [(List.cons.inj flat).1]⟩
  refine ⟨run, runs, hg, List.splitBy_eq_iff.2 ⟨by rw [flat]; rfl, ?_, ?_, ?_⟩⟩
  · simpa using nonempty
  · rw [List.forall_mem_cons] at chains ⊢
    exact ⟨List.isChain_cons_cons.2 ⟨by simpa using h, chains.1⟩, chains.2⟩
  · cases runs with
    | nil => exact List.isChain_singleton _
    | cons next runs =>
      obtain ⟨⟨_, hn, apart⟩, rest⟩ := List.isChain_cons_cons.1 breaks
      exact List.isChain_cons_cons.2 ⟨⟨List.cons_ne_nil _ _, hn, by simpa using apart⟩, rest⟩

/-- A count that is higher than the next one is a run of its own. -/
theorem splitBy_of_lt {c d : Nat} (h : d < c) (ds : List Nat) :
    (c :: d :: ds).splitBy (· ≤ ·) = [c] :: (d :: ds).splitBy (· ≤ ·) :=
  List.splitBy_append_cons (l := [c]) ds (by simpa using h)

theorem runTotal_cons (c : Nat) (cs : List Nat) : runTotal (c :: cs) = c + changes c cs := by
  induction cs generalizing c with
  | nil => rfl
  | cons d ds ih =>
    rw [changes, change]
    rcases Nat.lt_or_ge d c with h | h
    · rw [if_pos h, ← ih, runTotal, splitBy_of_lt h]
      rfl
    · obtain ⟨run, runs, before, after⟩ := splitBy_of_le h ds
      have same : runTotal (c :: d :: ds) = runTotal (d :: ds) := by
        rw [runTotal, runTotal, before, after]
        rfl
      rw [if_neg (Nat.not_lt.2 h), same, ih]
      omega

/-- **The changes of counts come to the last counts of the longest runs that do not go down.** -/
theorem changes_zero (counts : List Nat) : changes 0 counts = runTotal counts := by
  cases counts with
  | nil => rfl
  | cons c cs => rw [runTotal_cons, changes, change, if_neg (Nat.not_lt_zero c), Nat.sub_zero]

/-- Counts that never go down are one run. -/
theorem runTotal_of_isChain {counts : List Nat} (h : counts.IsChain (· ≤ ·)) :
    runTotal counts = counts.getLastD 0 := by
  rcases List.eq_nil_or_concat' counts with rfl | ⟨before, last, rfl⟩
  · rfl
  · rw [runTotal, List.splitBy_of_isChain (by simp) (by simpa using h)]
    simp

/-- Two runs: the count goes down once. -/
example : runTotal [3, 5, 5, 2, 4] = 9 := by decide

end Tracker
end MetricRelay
