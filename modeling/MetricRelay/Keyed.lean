/-!
# Lists in ascending key order

Dimensions, the series of a session and the tables of a configuration are lists of pairs whose
keys ascend strictly, so that a list has one order and a key stands in it at most once.
`Keyed.put` sets the value of a key and `Keyed.get?` looks one up; `Keyed.Ascending.put` says
that the order is kept, and `Keyed.get?_put_self` and `Keyed.get?_put_of_ne` what is found
afterwards.
-/

namespace MetricRelay
namespace Keyed

variable {κ β : Type} [Ord κ]

/-- The keys ascend strictly. -/
def Ascending (l : List (κ × β)) : Prop := l.Pairwise fun a b => compare a.1 b.1 = .lt

/-- The value of a key. -/
def get? (k : κ) : List (κ × β) → Option β
  | [] => none
  | (k', v) :: rest => if compare k k' = .eq then some v else get? k rest

/-- The list with the key set to a value; another value of the key is replaced. -/
def put (k : κ) (v : β) : List (κ × β) → List (κ × β)
  | [] => [(k, v)]
  | (k', v') :: rest =>
    match compare k k' with
    | .lt => (k, v) :: (k', v') :: rest
    | .eq => (k, v) :: rest
    | .gt => (k', v') :: put k v rest

/-- The pairs put one after the other: of two values of one key, the later one stays. -/
def ofList (l : List (κ × β)) : List (κ × β) := l.foldl (fun m (k, v) => put k v m) []

/-! ### What is found -/

theorem get?_put_self [Std.ReflOrd κ] (k : κ) (v : β) (l : List (κ × β)) :
    get? k (put k v l) = some v := by
  fun_induction put k v l <;> simp_all [get?, Std.ReflCmp.compare_self]

/-- The values of other keys stay. -/
theorem get?_put_of_ne [Std.LawfulEqOrd κ] {k k' : κ} (h : k' ≠ k) (v : β)
    (l : List (κ × β)) : get? k' (put k v l) = get? k' l := by
  fun_induction put k v l <;> simp_all [get?]

theorem mem_put [Std.LawfulEqOrd κ] {k : κ} {v : β} {l : List (κ × β)} {e : κ × β}
    (h : e ∈ put k v l) : e = (k, v) ∨ e ∈ l := by
  fun_induction put k v l <;> simp_all <;> grind

/-! ### The order -/

/-- Setting a value keeps the order. -/
theorem Ascending.put [Std.LawfulEqOrd κ] [Std.TransOrd κ] {l : List (κ × β)}
    (h : Ascending l) (k : κ) (v : β) : Ascending (put k v l) := by
  fun_induction Keyed.put k v l with
  | case1 => simp [Ascending]
  | case2 k' v' rest hk =>
    refine List.pairwise_cons.2 ⟨fun e he => ?_, h⟩
    rcases List.mem_cons.1 he with rfl | he
    · exact hk
    · exact Std.TransCmp.lt_trans hk (List.rel_of_pairwise_cons h he)
  | case3 k' v' rest hk =>
    obtain rfl := Std.LawfulEqCmp.eq_of_compare hk
    exact List.pairwise_cons.2
      ⟨fun e he => List.rel_of_pairwise_cons h he, (List.pairwise_cons.1 h).2⟩
  | case4 k' v' rest hk ih =>
    refine List.pairwise_cons.2 ⟨fun e he => ?_, ih (List.pairwise_cons.1 h).2⟩
    rcases mem_put he with rfl | he
    · exact Std.OrientedCmp.lt_of_gt hk
    · exact List.rel_of_pairwise_cons h he

/-- Whatever the order of the pairs, the list they give ascends. -/
theorem ascending_ofList [Std.LawfulEqOrd κ] [Std.TransOrd κ] (l : List (κ × β)) :
    Ascending (ofList l) := by
  have (m : List (κ × β)) (h : Ascending m) :
      Ascending (l.foldl (fun m (e : κ × β) => Keyed.put e.1 e.2 m) m) := by
    induction l generalizing m with
    | nil => exact h
    | cons e l ih => exact ih _ (h.put e.1 e.2)
  exact this [] List.Pairwise.nil

/-! ### Pairs in order -/

theorem get?_eq_none [Std.OrientedOrd κ] {k : κ} {l : List (κ × β)}
    (h : ∀ e ∈ l, compare e.1 k = .lt) : get? k l = none := by
  induction l with
  | nil => rfl
  | cons e l ih =>
    have hk : compare k e.1 = .gt :=
      Std.OrientedCmp.gt_of_lt (h e List.mem_cons_self)
    rw [get?, hk, if_neg nofun]
    exact ih fun e' h' => h e' (List.mem_cons_of_mem e h')

/-- A key beyond all others goes to the end. -/
theorem put_eq_append [Std.OrientedOrd κ] {k : κ} {l : List (κ × β)}
    (h : ∀ e ∈ l, compare e.1 k = .lt) (v : β) : put k v l = l ++ [(k, v)] := by
  induction l with
  | nil => rfl
  | cons e l ih =>
    have hk : compare k e.1 = .gt :=
      Std.OrientedCmp.gt_of_lt (h e List.mem_cons_self)
    rw [put, hk]
    rw [ih fun e' h' => h e' (List.mem_cons_of_mem e h')]
    rfl

/-- The keys in front of a pair are below its key. -/
theorem Ascending.lt_of_append {l rest : List (κ × β)} {e : κ × β}
    (h : Ascending (l ++ e :: rest)) : ∀ e' ∈ l, compare e'.1 e.1 = .lt :=
  fun e' h' => (List.pairwise_append.1 h).2.2 e' h' e List.mem_cons_self

/-- A list in order is put together as it is. -/
theorem ofList_eq_self [Std.OrientedOrd κ] {l : List (κ × β)} (h : Ascending l) :
    ofList l = l := by
  have (m : List (κ × β)) (hm : Ascending (m ++ l)) :
      l.foldl (fun m (e : κ × β) => Keyed.put e.1 e.2 m) m = m ++ l := by
    induction l generalizing m with
    | nil => simp
    | cons e l ih =>
      rw [List.foldl_cons, put_eq_append hm.lt_of_append]
      rw [ih (List.pairwise_cons.1 h).2 _ (by simpa using hm)]
      simp
  exact this [] h

end Keyed
end MetricRelay
