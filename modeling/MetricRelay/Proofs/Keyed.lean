import Mathlib.Algebra.Ring.Int.Defs
import Mathlib.Data.List.Induction
import Mathlib.Data.List.Nodup
import MetricRelay.Keyed

/-!
# Lists in key order as maps

A list in ascending key order is determined by what is found in it (`Keyed.Ascending.ext`).  So
pairs with different keys give the same list in whatever order they are put together
(`Keyed.ofList_perm`).
-/

namespace MetricRelay
namespace Keyed

variable {κ β : Type} [Ord κ]

/-! ### Members -/

theorem not_lt_self [Std.ReflOrd κ] (k : κ) : compare k k ≠ .lt := by
  simp [Std.ReflCmp.compare_self]

theorem Ascending.nodup [Std.ReflOrd κ] {l : List (κ × β)} (h : Ascending l) : l.Nodup := by
  refine List.Pairwise.imp (fun {a b} below => ?_) h
  rintro rfl
  exact not_lt_self a.1 below

theorem Ascending.nodup_keys [Std.ReflOrd κ] {l : List (κ × β)} (h : Ascending l) :
    (l.map Prod.fst).Nodup := by
  refine List.Pairwise.map Prod.fst (fun {a b} below => ?_) h
  rintro same
  rw [same] at below
  exact not_lt_self b.1 below

theorem mem_of_get? [Std.LawfulEqOrd κ] {k : κ} {v : β} {l : List (κ × β)}
    (h : get? k l = some v) : (k, v) ∈ l := by
  induction l with
  | nil => cases h
  | cons e l ih =>
    rw [get?] at h
    split_ifs at h with hk
    · obtain rfl := Std.LawfulEqCmp.eq_of_compare hk
      cases h
      exact List.mem_cons_self
    · exact List.mem_cons_of_mem e (ih h)

/-- What is found under a key is the pair that has it. -/
theorem Ascending.get?_eq_some_iff [Std.LawfulEqOrd κ] {l : List (κ × β)} (h : Ascending l)
    {k : κ} {v : β} : get? k l = some v ↔ (k, v) ∈ l := by
  induction l with
  | nil => simp [get?]
  | cons e l ih =>
    obtain ⟨k', v'⟩ := e
    obtain ⟨below, h⟩ := List.pairwise_cons.1 h
    rw [get?, List.mem_cons]
    split_ifs with hk
    · obtain rfl := Std.LawfulEqCmp.eq_of_compare hk
      have alone : (k, v) ∉ l := fun hv => not_lt_self k (below (k, v) hv)
      simp [alone, eq_comm]
    · have other : k ≠ k' := by
        rintro rfl
        exact hk Std.ReflCmp.compare_self
      simp [other, ih h]

/-- Lists in which the same is found are the same. -/
theorem Ascending.ext [Std.LawfulEqOrd κ] [Std.TransOrd κ] {l l' : List (κ × β)}
    (h : Ascending l) (h' : Ascending l') (same : ∀ k, get? k l = get? k l') : l = l' := by
  have perm : l.Perm l' := by
    refine (List.perm_ext_iff_of_nodup h.nodup h'.nodup).2 fun e => ?_
    rw [← h.get?_eq_some_iff, same, h'.get?_eq_some_iff]
  refine perm.eq_of_pairwise (fun a b _ _ hab hba => ?_) h h'
  rw [Std.OrientedCmp.gt_of_lt hab] at hba
  cases hba

/-- The pairs with a key are the one that is found, if there is one. -/
theorem Ascending.filter_eq [Std.LawfulEqOrd κ] [DecidableEq κ] {l : List (κ × β)}
    (h : Ascending l) (k : κ) :
    l.filter (·.1 = k) = ((get? k l).map fun v => (k, v)).toList := by
  induction l with
  | nil => rfl
  | cons e l ih =>
    obtain ⟨k', v'⟩ := e
    obtain ⟨below, h⟩ := List.pairwise_cons.1 h
    by_cases hk : k = k'
    · subst hk
      have alone : l.filter (·.1 = k) = [] := by
        rw [List.filter_eq_nil_iff]
        rintro ⟨k', v⟩ hv same
        obtain rfl : k' = k := by simpa using same
        exact not_lt_self k' (below (k', v) hv)
      rw [List.filter_cons_of_pos (by simp), alone, get?, if_pos Std.ReflCmp.compare_self]
      rfl
    · have other : compare k k' ≠ .eq := fun same => hk (Std.LawfulEqCmp.eq_of_compare same)
      rw [List.filter_cons_of_neg (by simpa using Ne.symm hk), ih h, get?, if_neg other]

/-- Leaving keys out leaves the values of the other keys as they are. -/
theorem get?_filter [Std.LawfulEqOrd κ] (p : κ → Bool) (k : κ) (l : List (κ × β)) :
    get? k (l.filter fun e => p e.1) = if p k then get? k l else none := by
  induction l with
  | nil => simp [get?]
  | cons e l ih =>
    obtain ⟨k', v'⟩ := e
    rw [List.filter_cons]
    by_cases hk : k = k'
    · subst hk
      cases hp : p k <;> simp_all [get?, Std.ReflCmp.compare_self]
    · split_ifs <;> simp_all [get?]

/-! ### Lists put together from pairs -/

theorem get?_put [Std.LawfulEqOrd κ] [DecidableEq κ] (k k' : κ) (v : β) (l : List (κ × β)) :
    get? k (put k' v l) = if k = k' then some v else get? k l := by
  split_ifs with h
  · rw [h, get?_put_self]
  · exact get?_put_of_ne h v l

/-- A key that is not there is added to the others. -/
theorem put_perm {k : κ} {l : List (κ × β)} (fresh : get? k l = none) (v : β) :
    (put k v l).Perm ((k, v) :: l) := by
  fun_induction put k v l with
  | case1 => exact .refl _
  | case2 => exact .refl _
  | case3 k' v' rest hk => rw [get?, if_pos hk] at fresh; cases fresh
  | case4 k' v' rest hk ih =>
    rw [get?, if_neg (by simp [hk])] at fresh
    exact ((ih fresh).cons (k', v')).trans (.swap ..)

theorem ofList_append_singleton (l : List (κ × β)) (e : κ × β) :
    ofList (l ++ [e]) = put e.1 e.2 (ofList l) := by
  simp [ofList]

theorem mem_of_mem_ofList [Std.LawfulEqOrd κ] {l : List (κ × β)} {e : κ × β}
    (h : e ∈ ofList l) : e ∈ l := by
  induction l using List.reverseRecOn with
  | nil => cases h
  | append_singleton l e' ih =>
    rw [ofList_append_singleton] at h
    rcases mem_put h with rfl | h
    · exact List.mem_append_right l (List.mem_singleton_self _)
    · exact List.mem_append_left _ (ih h)

/-- Pairs with different keys all stay. -/
theorem get?_ofList_eq_some_iff [Std.LawfulEqOrd κ] {l : List (κ × β)} {k : κ} {v : β}
    (nodup : (l.map Prod.fst).Nodup) : get? k (ofList l) = some v ↔ (k, v) ∈ l := by
  classical
  induction l using List.reverseRecOn generalizing v with
  | nil => simp [ofList, get?]
  | append_singleton l e ih =>
    obtain ⟨k', v'⟩ := e
    rw [List.map_append, List.nodup_append] at nodup
    obtain ⟨before, -, apart⟩ := nodup
    rw [ofList_append_singleton, get?_put, List.mem_append, List.mem_singleton]
    split_ifs with hk
    · subst hk
      have fresh : (k, v) ∉ l := fun hv =>
        apart k (List.mem_map_of_mem hv) k (by simp) rfl
      simp [fresh, eq_comm]
    · simp [hk, ih before]

/-- Pairs with different keys are only put in order. -/
theorem perm_ofList [Std.LawfulEqOrd κ] [Std.TransOrd κ] {l : List (κ × β)}
    (nodup : (l.map Prod.fst).Nodup) : (ofList l).Perm l := by
  have ascending := ascending_ofList l
  refine (List.perm_ext_iff_of_nodup ascending.nodup nodup.of_map).2 fun ⟨k, v⟩ => ?_
  rw [← ascending.get?_eq_some_iff, get?_ofList_eq_some_iff nodup]

/-- What a value is worth is added, and what the value before was worth goes. -/
theorem sum_put [Std.LawfulEqOrd κ] [Std.TransOrd κ] {l : List (κ × β)} (h : Ascending l)
    (worth : β → Int) (k : κ) (v : β) :
    ((put k v l).map (worth ·.2)).sum + (get? k l).elim 0 worth =
      (l.map (worth ·.2)).sum + worth v := by
  fun_induction put k v l with
  | case1 => simp [get?]
  | case2 k' v' rest below =>
    -- all keys are above the new one
    have absent : get? k ((k', v') :: rest) = none := by
      rw [Option.eq_none_iff_forall_ne_some]
      intro w found
      rcases List.mem_cons.1 (h.get?_eq_some_iff.1 found) with same | later
      · obtain ⟨rfl, -⟩ := Prod.mk.inj same
        exact not_lt_self k below
      · exact not_lt_self k (Std.TransCmp.lt_trans below ((List.pairwise_cons.1 h).1 _ later))
    rw [absent]
    simp
    omega
  | case3 k' v' rest hk =>
    rw [get?, if_pos hk]
    simp
    omega
  | case4 k' v' rest above ih =>
    have := ih (List.pairwise_cons.1 h).2
    rw [get?, if_neg (by simp [above])]
    simp at this ⊢
    omega

omit [Ord κ] in
/-- Values that are worth nothing can be left out. -/
theorem sum_filter {l : List (κ × β)} (p : κ → Bool) {worth : β → Int}
    (worthless : ∀ e ∈ l, p e.1 = false → worth e.2 = 0) :
    ((l.filter fun e => p e.1).map (worth ·.2)).sum = (l.map (worth ·.2)).sum := by
  induction l with
  | nil => rfl
  | cons e l ih =>
    obtain ⟨first, later⟩ := List.forall_mem_cons.1 worthless
    rw [List.filter_cons, List.map_cons, List.sum_cons]
    split_ifs with hp
    · rw [List.map_cons, List.sum_cons, ih later]
    · rw [ih later, first (by simpa using hp), Int.zero_add]

/-- The order in which pairs are put together does not matter if their keys differ. -/
theorem ofList_perm [Std.LawfulEqOrd κ] [Std.TransOrd κ] {l l' : List (κ × β)}
    (perm : l.Perm l') (nodup : (l.map Prod.fst).Nodup) : ofList l = ofList l' := by
  have nodup' : (l'.map Prod.fst).Nodup := (perm.map Prod.fst).nodup_iff.1 nodup
  refine (ascending_ofList l).ext (ascending_ofList l') fun k => Option.ext fun v => ?_
  rw [get?_ofList_eq_some_iff nodup, get?_ofList_eq_some_iff nodup', perm.mem_iff]

end Keyed
end MetricRelay
