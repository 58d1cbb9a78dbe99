import MetricRelay.Proofs.Metric.Saturation
import MetricRelay.Proofs.Sender.Recording

/-!
# Integer increments of a counter

What a session holds of a series starts anew with the first increment of a counter, and later
increments are added.  So integers come to their saturating sum
(`Session.get?_recordAll_of_increments`), in which writes to other series have no part.  The
order of the increments has none either if none of them is negative
(`Session.integer_increments_add_up`).
-/

namespace MetricRelay
namespace Session

/-- Recordings bring these integers to a series, as increments of a counter, and nothing else.
They may bring anything to other series, and writes that do not succeed do not count. -/
def Increments (s : Session) (series : Series) (rs : List Recording) (is : List Int64) : Prop :=
  ((rs.flatMap (·.successes s.defaultSource)).filter (·.series = series)).map Write.entry =
    is.map fun i => (.counter, .int i)

/-- Increments are added to a sum of integers. -/
theorem foldl_hold_increments (sum : Int64) (is : List Int64) :
    (is.map fun i => (Kind.counter, Value.int i)).foldl hold (some (.counter, .int sum)) =
      some (.counter, .int (is.foldl saturatingAdd sum)) := by
  induction is generalizing sum with
  | nil => rfl
  | cons i is ih => exact ih (saturatingAdd sum i)

variable {s : Session} {series : Series}

theorem get?_recordAll_of_increments (isOpen : s.isClosed = false)
    (fresh : ∀ sum, Keyed.get? series s.entries ≠ some (.counter, sum)) {rs : List Recording}
    {first : Int64} {is : List Int64} (brought : s.Increments series rs (first :: is)) :
    Keyed.get? series (s.recordAll rs).entries =
      some (.counter, .int (is.foldl saturatingAdd first)) := by
  have anew : hold (Keyed.get? series s.entries) (.counter, .int first) =
      some (.counter, .int first) := by
    unfold hold merge
    split
    · rename_i held _
      exact absurd held (fresh _)
    · rfl
  rw [recordAll_eq isOpen, get?_foldl_after_eq_foldl,
    show _ = (first :: is).map _ from brought, List.map_cons, List.foldl_cons, anew]
  exact foldl_hold_increments first is

/-- **Integer increments of a counter add up.**  If a series does not hold a counter and some
integers are brought to it, at least one, then it holds an integer, and this integer

* is determined by the increments, whatever is written to other series in between;
* is their sum if no partial sum leaves the range of 64 bits;
* is the lesser one of their sum and the end of the range if none of them is negative, and then
  is the same in any order. -/
theorem integer_increments_add_up (isOpen : s.isClosed = false)
    (fresh : ∀ sum, Keyed.get? series s.entries ≠ some (.counter, sum)) {rs : List Recording}
    {is : List Int64} (nonempty : is ≠ []) (brought : s.Increments series rs is) :
    let held (rs : List Recording) := Keyed.get? series (s.recordAll rs).entries
    ∃ total : Int64, held rs = some (.counter, .int total) ∧
      (∀ rs', s.Increments series rs' is → held rs' = held rs) ∧
      ((∀ before, before <+: is → IsInRange (exactSum before)) → total.toInt = exactSum is) ∧
      ((∀ i ∈ is, 0 ≤ i.toInt) → total.toInt = min (exactSum is) (2 ^ 63 - 1) ∧
        ∀ rs' is', s.Increments series rs' is' → is'.Perm is → held rs' = held rs) := by
  intro held
  obtain ⟨first, is, rfl⟩ := List.exists_cons_of_ne_nil nonempty
  have held_eq : held rs = some (.counter, .int (is.foldl saturatingAdd first)) :=
    get?_recordAll_of_increments isOpen fresh brought
  have capped {first : Int64} {is : List Int64} (nonneg : ∀ i ∈ first :: is, 0 ≤ i.toInt) :
      (is.foldl saturatingAdd first).toInt = min (exactSum (first :: is)) (2 ^ 63 - 1) := by
    rw [List.forall_mem_cons] at nonneg
    rw [toInt_foldl_saturatingAdd_of_nonneg nonneg.1 nonneg.2, exactSum_cons]
  refine ⟨_, held_eq, fun rs' brought' => ?_, fun inRange => ?_, fun nonneg => ⟨capped nonneg, ?_⟩⟩
  · rw [held_eq]
    exact get?_recordAll_of_increments isOpen fresh brought'
  · rw [exactSum_cons]
    refine toInt_foldl_saturatingAdd fun before hb => ?_
    have := inRange (first :: before) ((List.prefix_cons_inj first).2 hb)
    rwa [exactSum_cons] at this
  · intro rs' is' brought' perm
    obtain ⟨first', is', rfl⟩ := List.exists_cons_of_ne_nil fun none_left : is' = [] =>
      nonempty (none_left ▸ perm).nil_eq.symm
    have nonneg' : ∀ i ∈ first' :: is', 0 ≤ i.toInt := fun i hi => nonneg i (perm.mem_iff.1 hi)
    have same : is'.foldl saturatingAdd first' = is.foldl saturatingAdd first := by
      rw [← Int64.toInt_inj, capped nonneg', capped nonneg, exactSum_perm perm]
    rw [held_eq, ← same]
    exact get?_recordAll_of_increments isOpen fresh brought'

/-! ### A counter at the end of its range -/

/-- A series that is a gauge so far. -/
def gaugedSession : Session where
  defaultSource := "web-1"
  entries := [(⟨"web-1", "hits", []⟩, .gauge, .int (-9))]

/-- Increments that come to more than an integer can be, with a write to another series and one
without a name in between. -/
def sampleIncrements : List Recording :=
  [.single none "hits" .counter (.int 7) [],
    .single (some "web-2") "hits" .gauge (.int 3) [],
    .single none "" .counter (.int 5) [],
    .single none "hits" .counter (.int Int64.maxValue) []]

theorem integer_increments_add_up_sample :
    gaugedSession.isClosed = false ∧
      (∀ sum, Keyed.get? ⟨"web-1", "hits", []⟩ gaugedSession.entries ≠ some (.counter, sum)) ∧
      gaugedSession.Increments ⟨"web-1", "hits", []⟩ sampleIncrements [7, Int64.maxValue] ∧
      Keyed.get? ⟨"web-1", "hits", []⟩ (gaugedSession.recordAll sampleIncrements).entries =
        some (.counter, .int Int64.maxValue) := by
  have fresh (sum : Value) :
      Keyed.get? ⟨"web-1", "hits", []⟩ gaugedSession.entries ≠ some (.counter, sum) := nofun
  have brought : gaugedSession.Increments ⟨"web-1", "hits", []⟩ sampleIncrements
      [7, Int64.maxValue] := by
    unfold Increments
    decide +kernel
  obtain ⟨total, held, -, -, capped⟩ :=
    integer_increments_add_up (s := gaugedSession) rfl fresh (List.cons_ne_nil _ _) brought
  have nonneg : ∀ i ∈ [7, Int64.maxValue], 0 ≤ i.toInt := by
    rw [List.forall_mem_cons, List.forall_mem_singleton]
    decide
  have total_eq : total = Int64.maxValue := by
    rw [← Int64.toInt_inj, (capped nonneg).1]
    decide
  exact ⟨rfl, fresh, brought, total_eq ▸ held⟩

end Session
end MetricRelay
