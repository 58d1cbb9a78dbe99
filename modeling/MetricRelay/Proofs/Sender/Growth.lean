import Mathlib.Algebra.Ring.Int.Defs
import MetricRelay.Proofs.Metric.Histogram
import MetricRelay.Proofs.Metric.Saturation
import MetricRelay.Proofs.Sender.Distribution
import MetricRelay.Proofs.Sender.Sessions

/-!
# Counts that grow in a session

A count that never goes down is written to a session as increments that are integers and not
negative, and such growth adds up without loss as long as the sum is an integer of 64 bits
(`IsGrowth.accumulate`).  A session *carries* a series if it holds nothing else of it
(`Session.Carries`).  Writes to other series leave this as it is, a distribution that is accepted
adds by how much its count has changed since the last one (`Session.Carries.distribution`), and
closing gives away all of it: what was held is then the value of the committed points
(`Session.Carries.committed`).
-/

namespace MetricRelay

/-- The integer of a value. -/
def Value.amount : Value → Int
  | .int i => i.toInt
  | .float _ => 0

/-- A count that has grown: an increment of a counter that is an integer and not negative. -/
def IsGrowth (kind : Kind) (value : Value) : Prop :=
  kind = .counter ∧ ∃ i : Int64, value = .int i ∧ 0 ≤ i.toInt

theorem IsGrowth.amount_nonneg {kind : Kind} {value : Value} (h : IsGrowth kind value) :
    0 ≤ value.amount := by
  obtain ⟨-, i, rfl, nonneg⟩ := h
  exact nonneg

/-- Growth is added to growth as long as there is room. -/
theorem IsGrowth.accumulate {kind kind' : Kind} {v w : Value} (hv : IsGrowth kind v)
    (hw : IsGrowth kind' w) (bounded : v.amount + w.amount < 2 ^ 63) :
    IsGrowth .counter (v.accumulate w) ∧ (v.accumulate w).amount = v.amount + w.amount := by
  obtain ⟨-, i, rfl, hi⟩ := hv
  obtain ⟨-, j, rfl, hj⟩ := hw
  have sum : (saturatingAdd i j).toInt = i.toInt + j.toInt := by
    rw [toInt_saturatingAdd]
    simp only [Value.amount] at bounded
    omega
  exact ⟨⟨rfl, _, rfl, by rw [sum]; exact Int.add_nonneg hi hj⟩, sum⟩

namespace Session

/-! ### A count in a session -/

/-- What a session holds of a series. -/
def amount (series : Series) (s : Session) : Int :=
  (Keyed.get? series s.entries).elim 0 (·.2.amount)

/-- What a session holds of a series is growth. -/
structure Carries (series : Series) (s : Session) : Prop where
  sound : s.IsSound
  source_eq : s.defaultSource = series.source
  grown : ∀ e, Keyed.get? series s.entries = some e → IsGrowth e.1 e.2

variable {series : Series} {s : Session}

theorem amount_of_empty (empty : s.entries = []) : s.amount series = 0 := by
  rw [amount, empty]
  rfl

theorem carries_of_empty (empty : s.entries = []) (source_eq : s.defaultSource = series.source) :
    s.Carries series where
  sound := isSound_of_empty empty
  source_eq := source_eq
  grown e he := by rw [empty] at he; cases he

theorem Carries.amount_nonneg (h : s.Carries series) : 0 ≤ s.amount series := by
  unfold amount
  cases he : Keyed.get? series s.entries with
  | none => exact Int.le_refl 0
  | some e => exact (h.grown e he).amount_nonneg

theorem Carries.foldl_after (h : s.Carries series) (isOpen : s.isClosed = false)
    {ws : List Write} (sound : ∀ w ∈ ws, w.draft.IsSound) (other : ∀ w ∈ ws, w.series ≠ series) :
    (ws.foldl after s).Carries series ∧ (ws.foldl after s).amount series = s.amount series := by
  have same := get?_foldl_after_of_ne s other
  refine ⟨⟨h.sound.foldl_after isOpen sound, ?_, ?_⟩, ?_⟩
  · exact (s.foldl_after ws).2.trans h.source_eq
  · rw [same]
    exact h.grown
  · rw [amount, amount, same]

/-- Whatever is recorded, a count stays as it is unless something is written to its series. -/
theorem Carries.record (h : s.Carries series) {r : Recording}
    (other : s.isClosed = false → ∀ w ∈ r.successes series.source, w.series ≠ series) :
    (s.record r).1.Carries series ∧ (s.record r).1.amount series = s.amount series := by
  cases isOpen : s.isClosed with
  | true =>
    rw [record_of_isClosed isOpen]
    exact ⟨h, rfl⟩
  | false =>
    rw [record_fst isOpen, h.source_eq]
    exact h.foldl_after isOpen (fun w hw => Recording.isSound_of_mem hw) (other isOpen)

/-- A write of growth to the series. -/
theorem Carries.after (h : s.Carries series) (isOpen : s.isClosed = false) {w : Write}
    (sound : w.draft.IsSound) (own : w.series = series) (grown : IsGrowth w.kind w.value)
    (bounded : s.amount series + w.value.amount < 2 ^ 63) :
    (s.after w).Carries series ∧
      (s.after w).amount series = s.amount series + w.value.amount := by
  have found : Keyed.get? series (s.after w).entries =
      some (w.kind, merge (Keyed.get? series s.entries) w.kind w.value) := by
    rw [Session.after, own, Keyed.get?_put_self]
  have merged : IsGrowth w.kind (merge (Keyed.get? series s.entries) w.kind w.value) ∧
      (merge (Keyed.get? series s.entries) w.kind w.value).amount =
        s.amount series + w.value.amount := by
    unfold amount at bounded ⊢
    cases he : Keyed.get? series s.entries with
    | none => exact ⟨grown, (Int.zero_add _).symm⟩
    | some e =>
      rw [he] at bounded
      have before := h.grown e he
      obtain ⟨kind, value⟩ := e
      obtain rfl : kind = .counter := before.1
      rw [grown.1]
      exact before.accumulate grown bounded
  refine ⟨⟨h.sound.after isOpen sound, h.source_eq, ?_⟩, ?_⟩
  · rw [found]
    rintro _ ⟨⟩
    exact merged.1
  · rw [amount, found]
    exact merged.2

/-! ### A distribution in a session -/

theorem amount_countValue (snapshot : Snapshot) (bounded : snapshot.count.toNat < 2 ^ 63) :
    IsGrowth .counter (countValue snapshot) ∧
      (countValue snapshot).amount = snapshot.count.toNat := by
  have hmax : Int64.maxValue.toInt = 2 ^ 63 - 1 := rfl
  have exact_count : (Int64.ofInt (min snapshot.count.toNat Int64.maxValue.toInt)).toInt =
      snapshot.count.toNat := by
    rw [Int64.toInt_ofInt_of_le] <;> omega
  refine ⟨⟨rfl, _, rfl, ?_⟩, exact_count⟩
  rw [exact_count]
  omega

/-- The writes of a distribution behind that of the count belong to other series. -/
theorem series_ne_of_mem_parts {source name : String} {kind : Kind} {snapshot : Snapshot}
    {dimensions : List (String × String)} {w : Write}
    (hw : w ∈ (parts source name kind snapshot dimensions).tail) :
    w.series.name ≠ name ++ ".count" := by
  rw [parts_eq, totals, List.cons_append, List.tail_cons, List.mem_append] at hw
  rcases hw with hw | hw
  · simp only [List.mem_cons, List.not_mem_nil, or_false] at hw
    rcases hw with rfl | rfl <;> simp [Write.series]
  · obtain ⟨b, -, rfl⟩ := List.mem_map.1 hw
    simp [Write.series, bucketWrite]

/-- **An accepted distribution adds the change of its count.** -/
theorem Carries.distribution (h : s.Carries series) {name : String}
    {dimensions : List (String × String)} (name_eq : series.name = name ++ ".count")
    (dimensions_eq : series.dimensions = Keyed.ofList dimensions) {baseline snapshot : Snapshot}
    (ok : (s.recordDistribution name (.delta baseline) snapshot dimensions).2.2.2 = .ok ())
    (bounded : s.amount series +
      Tracker.change baseline.count.toNat snapshot.count.toNat < 2 ^ 63) :
    (s.recordDistribution name (.delta baseline) snapshot dimensions).1.Carries series ∧
    (s.recordDistribution name (.delta baseline) snapshot dimensions).1.amount series =
      s.amount series + Tracker.change baseline.count.toNat snapshot.count.toNat := by
  obtain ⟨sound, session_eq⟩ := recordDistribution_of_ok ok
  have isOpen := ((recordDistribution_ok_iff ..).1 ok).1
  have nonneg := h.amount_nonneg
  rw [← Tracker.toNat_count_since] at bounded ⊢
  obtain ⟨grown, amount_eq⟩ :=
    amount_countValue (Tracker.since baseline snapshot).1 (by omega)
  rw [← amount_eq] at bounded ⊢
  -- the count is written first
  let w : Write := ⟨s.defaultSource, name ++ ".count", .counter,
    countValue (Tracker.since baseline snapshot).1, dimensions⟩
  have own : w.series = series := by
    change Series.mk s.defaultSource (name ++ ".count") (Keyed.ofList dimensions) = series
    rw [h.source_eq, ← name_eq, ← dimensions_eq]
  have parts_cons : parts s.defaultSource name (totalKind (.delta baseline))
      ((Tracker.delta baseline).next snapshot).2.1 dimensions = w :: _ := rfl
  rw [session_eq, parts_cons, List.foldl_cons]
  rw [parts_cons, List.forall_mem_cons] at sound
  obtain ⟨carries, held⟩ := h.after isOpen sound.1 own grown bounded
  obtain ⟨carries', held'⟩ := carries.foldl_after isOpen sound.2 fun v hv same => by
    refine series_ne_of_mem_parts hv ?_
    rw [same, name_eq]
  exact ⟨carries', held'.trans held⟩

/-! ### A count that is committed -/

theorem Carries.close (h : s.Carries series) (now : Int64) :
    (s.close now).1.Carries series ∧ (s.close now).1.amount series = 0 := by
  have empty := entries_close h.sound now
  refine ⟨carries_of_empty empty (Eq.trans ?_ h.source_eq), amount_of_empty empty⟩
  rw [Session.close]
  split_ifs <;> rfl

end Session

/-- A point is one of a series. -/
structure Point.IsOf (p : Point) (series : Series) : Prop where
  source_eq : p.source = some series.source
  name_eq : p.name = series.name
  dimensions_eq : p.dimensions = series.dimensions

instance (p : Point) (series : Series) : Decidable (p.IsOf series) :=
  decidable_of_iff
    (p.source = some series.source ∧ p.name = series.name ∧ p.dimensions = series.dimensions)
    ⟨fun ⟨hs, hn, hd⟩ => ⟨hs, hn, hd⟩, fun ⟨hs, hn, hd⟩ => ⟨hs, hn, hd⟩⟩

theorem Session.pointAt_isOf_iff {series : Series} {now : Int64} {e : Series × Kind × Value} :
    (pointAt now e).IsOf series ↔ e.1 = series := by
  obtain ⟨⟨source, name, dimensions⟩, kind, value⟩ := e
  obtain ⟨source', name', dimensions'⟩ := series
  constructor
  · rintro ⟨hs, hn, hd⟩
    obtain rfl : source = source' := Option.some.inj hs
    obtain rfl : name = name' := hn
    obtain rfl : dimensions = dimensions' := hd
    rfl
  · intro same
    cases same
    exact ⟨rfl, rfl, rfl⟩

namespace Sender

/-- The accepted points of a series. -/
def committed (series : Series) (es : List Event) : List Point :=
  (acceptedPoints es).filter (·.IsOf series)

/-- What the accepted points of a series come to. -/
def committedAmount (series : Series) (es : List Event) : Int :=
  ((committed series es).map (·.value.amount)).sum

theorem committed_append (series : Series) (es es' : List Event) :
    committed series (es ++ es') = committed series es ++ committed series es' := by
  rw [committed, acceptedPoints_append, List.filter_append]
  rfl

theorem committedAmount_append (series : Series) (es es' : List Event) :
    committedAmount series (es ++ es') =
      committedAmount series es + committedAmount series es' := by
  rw [committedAmount, committed_append, List.map_append, List.sum_append]
  rfl

/-- The worker accepts nothing. -/
theorem acceptedPoints_move (s : Sender) (m : Move) : acceptedPoints (s.move m).2 = [] := by
  have step : Ledger.Step s.ledger (.move m) (s.move m).2 (s.move m).1.ledger :=
    s.step_ledger (.move m)
  generalize (s.move m).2 = es at step ⊢
  generalize (s.move m).1.ledger = l at step
  cases step with
  | discard => simp
  | collapse => simp
  | writeOff => simp
  | _ => rfl

end Sender

/-- What a session holds of a series is what is committed when all of its points are accepted. -/
theorem Session.Carries.committed {series : Series} {s : Session} (h : s.Carries series)
    {now : Int64} {es : List Sender.Event}
    (accepted : Sender.acceptedPoints es = s.entries.map (pointAt now)) :
    (∀ p ∈ Sender.committed series es, IsGrowth p.kind p.value) ∧
      Sender.committedAmount series es = s.amount series := by
  have own : Sender.committed series es =
      (((Keyed.get? series s.entries).map fun e => (series, e)).toList).map (pointAt now) := by
    rw [Sender.committed, accepted, List.filter_map, ← h.sound.ascending.filter_eq]
    congr 1
    exact List.filter_congr fun e _ => by simp [pointAt_isOf_iff]
  rw [Sender.committedAmount, own, Session.amount]
  cases he : Keyed.get? series s.entries with
  | none => exact ⟨nofun, rfl⟩
  | some e =>
    refine ⟨?_, by simp [pointAt]⟩
    simpa [pointAt] using h.grown e he

namespace Station

/-- Closing that is accepted commits all points of the session. -/
theorem acceptedPoints_closeSession {s : Station} {name : String} {now : Int64}
    {inRuntime : Bool} (sound : (s.session name).IsSound)
    (ok : (s.closeSession name now inRuntime).answer = some (.ok ())) :
    Sender.acceptedPoints (s.closeSession name now inRuntime).events =
      (s.session name).entries.map (Session.pointAt now) := by
  cases isOpen : (s.session name).isClosed with
  | true =>
    rw [closeSession_of_isClosed isOpen, sound.emptied isOpen]
    rfl
  | false =>
    by_cases infinite : ∃ e ∈ (s.session name).entries, e.2.2.isFinite = false
    · obtain ⟨e, -, -, close_eq⟩ := Session.close_of_not_isFinite sound isOpen infinite now
      rw [closeSession, close_eq] at ok
      cases ok
    · have finite : ∀ e ∈ (s.session name).entries, e.2.2.isFinite = true := by
        simpa using infinite
      have offered := closeSession_of_isFinite sound isOpen finite now inRuntime
      rw [offered] at ok ⊢
      have cases := s.sender.submit_cases ((s.session name).entries.map (Session.pointAt now))
        inRuntime
      rw [show s.sender.submission _ inRuntime = _ from ok] at cases
      exact cases.2.2

end Station
end MetricRelay
