import Mathlib.Data.List.Induction
import Mathlib.Data.List.ModifyLast
import MetricRelay.Proofs.Sender.Conservation

/-!
# Points leave in order

The batches that a sender takes, one after the other, followed by what it threw away or still
buffers, are the accepted points in the order in which they were accepted: none is lost, none is
there twice, none has overtaken another.

A `Sender.Dispatch` is the story of one batch as the events tell it: the answers to its requests
and its fate.  A batch is dropped or abandoned exactly if the answer that ended its delivery was
no acknowledgement, or if there was no such answer (`Sender.Dispatch.IsAcknowledged`).  An answer
that is followed by another attempt does not end a delivery, even if it is an acknowledgement.
-/

namespace MetricRelay
namespace Sender

/-! ### What events tell -/

/-- The accepted points in the order in which they were accepted. -/
def acceptedPoints (es : List Event) : List Point :=
  es.flatMap fun
    | .accepted points => points
    | _ => []

/-- The points that were thrown away. -/
def discardedPoints (es : List Event) : List Point :=
  es.flatMap fun
    | .discarded points => points
    | _ => []

/-- The batches in the order in which they were taken. -/
def takenBatches (es : List Event) : List (List Point) :=
  es.filterMap fun
    | .taken batch => some batch
    | _ => none

/-- The story of a batch. -/
structure Dispatch where
  batch : List Point
  /-- The answers to its requests in order. -/
  answers : List Outcome := []
  /-- What became of it; none as long as it is being sent. -/
  fate : Option Fate := none

/-- The stories with one more event, which belongs to the latest batch. -/
def recount (ds : List Dispatch) : Event → List Dispatch
  | .taken batch => ds ++ [{ batch }]
  | .answered outcome => ds.modifyLast fun d => { d with answers := d.answers ++ [outcome] }
  | .settled _ fate => ds.modifyLast fun d => { d with fate := some fate }
  | _ => ds

/-- The stories that events tell, batch by batch. -/
def dispatches (es : List Event) : List Dispatch := es.foldl recount []

/-- The answer that ended the delivery is the acknowledgement: no attempt follows it. -/
def Dispatch.IsAcknowledged (c : Client) (d : Dispatch) : Prop :=
  ∃ earlier, d.answers = earlier ++ [acknowledged] ∧
    c.policy.shouldRetry acknowledged (earlier.length + 1).toUInt32 = false

@[simp] theorem acceptedPoints_append (es es' : List Event) :
    acceptedPoints (es ++ es') = acceptedPoints es ++ acceptedPoints es' :=
  List.flatMap_append

@[simp] theorem discardedPoints_append (es es' : List Event) :
    discardedPoints (es ++ es') = discardedPoints es ++ discardedPoints es' :=
  List.flatMap_append

@[simp] theorem takenBatches_append (es es' : List Event) :
    takenBatches (es ++ es') = takenBatches es ++ takenBatches es' :=
  List.filterMap_append

theorem dispatches_append (es es' : List Event) :
    dispatches (es ++ es') = es'.foldl recount (dispatches es) :=
  List.foldl_append

/-- There is one story for each batch. -/
theorem map_batch_dispatches (es : List Event) :
    (dispatches es).map (·.batch) = takenBatches es := by
  -- an event about the latest story leaves its batch as it is
  have keep (ds : List Dispatch) (f : Dispatch → Dispatch) (hf : ∀ d, (f d).batch = d.batch) :
      (ds.modifyLast f).map (·.batch) = ds.map (·.batch) := by
    rcases List.eq_nil_or_concat ds with rfl | ⟨ds, d, rfl⟩
    · rfl
    · simp [List.modifyLast_concat, hf]
  induction es using List.reverseRecOn with
  | nil => rfl
  | append_singleton es e ih =>
    rw [dispatches_append, takenBatches_append, ← ih]
    cases e with
    | taken batch => simp [recount, takenBatches]
    | answered outcome => simp [recount, takenBatches, keep]
    | settled batch fate => simp [recount, takenBatches, keep]
    | _ => simp [recount, takenBatches]

/-! ### Settled and open stories -/

namespace Dispatch

/-- The story has come to an end, and the end is the right one. -/
def IsSettled (c : Client) (d : Dispatch) : Prop :=
  ∃ fate, d.fate = some fate ∧
    (fate = .dropped ∨ fate = .abandoned ↔ ¬d.IsAcknowledged c)

/-- The story of the batch in flight: all answers so far were followed by another attempt. -/
structure IsOpen (c : Client) (f : Flight) (d : Dispatch) : Prop where
  batch_eq : d.batch = f.batch
  nonempty : d.batch ≠ []
  fate_eq : d.fate = none
  attempt_eq : f.attempt = (d.answers.length + if f.wait.isNone then 1 else 0).toUInt32
  retried : ∀ earlier outcome, d.answers = earlier ++ [outcome] →
    c.policy.shouldRetry outcome (earlier.length + 1).toUInt32 = true

theorem IsOpen.not_isAcknowledged {c : Client} {f : Flight} {d : Dispatch} (h : d.IsOpen c f) :
    ¬d.IsAcknowledged c := by
  rintro ⟨earlier, ha, hr⟩
  rw [h.retried earlier acknowledged ha] at hr
  cases hr

theorem IsOpen.abandoned {c : Client} {f : Flight} {d : Dispatch} (h : d.IsOpen c f) :
    IsSettled c { d with fate := some .abandoned } :=
  ⟨.abandoned, rfl, fun _ => h.not_isAcknowledged, fun _ => .inr rfl⟩

theorem IsOpen.acknowledged {c : Client} {f : Flight} {d : Dispatch} (h : d.IsOpen c f)
    (awaited : f.wait = none)
    (final : c.policy.shouldRetry MetricRelay.acknowledged f.attempt = false) :
    IsSettled c
      { d with
        answers := d.answers ++ [MetricRelay.acknowledged]
        fate := some (.acknowledged f.request) } := by
  refine ⟨_, rfl, nofun, fun hn => absurd ⟨d.answers, rfl, ?_⟩ hn⟩
  rw [h.attempt_eq, awaited] at final
  exact final

theorem IsOpen.dropped {c : Client} {f : Flight} {d : Dispatch} (_ : d.IsOpen c f)
    {outcome : Outcome} (refused : outcome ≠ MetricRelay.acknowledged) :
    IsSettled c { d with answers := d.answers ++ [outcome], fate := some .dropped } := by
  refine ⟨_, rfl, fun _ => ?_, fun _ => .inl rfl⟩
  rintro ⟨earlier, ha, -⟩
  exact refused (List.append_inj_right' ha rfl |> List.singleton_inj.1)

theorem IsOpen.retry {c : Client} {f : Flight} {d : Dispatch} (h : d.IsOpen c f)
    {outcome : Outcome} (awaited : f.wait = none)
    (retried : c.policy.shouldRetry outcome f.attempt = true) (wait : Duration) :
    IsOpen c { f with wait := some wait } { d with answers := d.answers ++ [outcome] } where
  batch_eq := h.batch_eq
  nonempty := h.nonempty
  fate_eq := h.fate_eq
  attempt_eq := by
    rw [h.attempt_eq, awaited]
    simp
  retried earlier outcome' ha := by
    obtain ⟨rfl, ho⟩ := List.append_inj' ha rfl
    obtain rfl := List.singleton_inj.1 ho
    rwa [h.attempt_eq, awaited] at retried

theorem IsOpen.resume {c : Client} {f : Flight} {d : Dispatch} (h : d.IsOpen c f)
    {wait : Duration} (waiting : f.wait = some wait) :
    IsOpen c { f with attempt := f.attempt + 1, wait := none } d where
  batch_eq := h.batch_eq
  nonempty := h.nonempty
  fate_eq := h.fate_eq
  attempt_eq := by
    rw [h.attempt_eq, waiting]
    simp
  retried := h.retried

/-- A batch that could not be sent. -/
theorem isSettled_refused (c : Client) (batch : List Point) :
    IsSettled c { batch, fate := some .dropped } := by
  refine ⟨_, rfl, fun _ => ?_, fun _ => .inl rfl⟩
  rintro ⟨earlier, ha, -⟩
  simp at ha

end Dispatch

/-- All stories are settled but the one of the batch in flight, which is the latest. -/
inductive Tracks (c : Client) : Option Flight → List Dispatch → Prop
  | free {ds : List Dispatch} (settled : ∀ d ∈ ds, d.IsSettled c) : Tracks c none ds
  | busy {ds : List Dispatch} {d : Dispatch} {f : Flight} (settled : ∀ d ∈ ds, d.IsSettled c)
    (current : d.IsOpen c f) : Tracks c (some f) (ds ++ [d])

namespace Tracks

variable {c : Client} {f : Flight} {ds : List Dispatch}

/-- The batch in flight is no longer: its story is settled. -/
theorem settle {d : Dispatch} (settled : ∀ d ∈ ds, d.IsSettled c) (hd : d.IsSettled c) :
    Tracks c none (ds ++ [d]) :=
  .free fun d' h' => (List.mem_append.1 h').elim (settled d') fun h' =>
    List.mem_singleton.1 h' ▸ hd

theorem settled_of_free (h : Tracks c none ds) : ∀ d ∈ ds, d.IsSettled c := by
  cases h with
  | free settled => exact settled

theorem eq_append_of_busy (h : Tracks c (some f) ds) :
    ∃ ds' d, ds = ds' ++ [d] ∧ (∀ d ∈ ds', d.IsSettled c) ∧ d.IsOpen c f := by
  cases h with
  | busy settled current => exact ⟨_, _, rfl, settled, current⟩

/-- A batch with a fate has the right one. -/
theorem fate_iff {flight : Option Flight} {d : Dispatch} (h : Tracks c flight ds) (hd : d ∈ ds)
    (fate : Fate) (hf : d.fate = some fate) :
    fate = .dropped ∨ fate = .abandoned ↔ ¬d.IsAcknowledged c := by
  have right (hs : d.IsSettled c) :
      fate = .dropped ∨ fate = .abandoned ↔ ¬d.IsAcknowledged c := by
    obtain ⟨fate', hf', hi⟩ := hs
    obtain rfl : fate' = fate := Option.some_inj.1 (hf'.symm.trans hf)
    exact hi
  cases h with
  | free settled => exact right (settled d hd)
  | busy settled current =>
    rcases List.mem_append.1 hd with hd | hd
    · exact right (settled d hd)
    · obtain rfl := List.mem_singleton.1 hd
      rw [current.fate_eq] at hf
      cases hf

/-- Only the batch in flight has no fate. -/
theorem unsettled {flight : Option Flight} (h : Tracks c flight ds) :
    (ds.filter (·.fate.isNone)).flatMap (·.batch) = (flight.map (·.batch)).getD [] := by
  have none_of (ds : List Dispatch) (settled : ∀ d ∈ ds, d.IsSettled c) :
      ds.filter (·.fate.isNone) = [] := by
    rw [List.filter_eq_nil_iff]
    intro d hd
    obtain ⟨fate, hf, -⟩ := settled d hd
    simp [hf]
  cases h with
  | free settled =>
    rw [none_of ds settled]
    rfl
  | busy settled current =>
    rw [List.filter_append, none_of _ settled]
    simp [current.fate_eq, current.batch_eq]

end Tracks

/-! ### What each change does -/

@[simp] theorem acceptedPoints_lossEvents (n : Nat) (report : Nat → Report) :
    acceptedPoints (lossEvents n report) = [] := by
  unfold lossEvents
  split <;> rfl

@[simp] theorem discardedPoints_lossEvents (n : Nat) (report : Nat → Report) :
    discardedPoints (lossEvents n report) = [] := by
  unfold lossEvents
  split <;> rfl

@[simp] theorem takenBatches_lossEvents (n : Nat) (report : Nat → Report) :
    takenBatches (lossEvents n report) = [] := by
  unfold lossEvents
  split <;> rfl

theorem recount_lossEvents (ds : List Dispatch) (n : Nat) (report : Nat → Report) :
    (lossEvents n report).foldl recount ds = ds := by
  unfold lossEvents
  split <;> rfl

namespace Ledger

variable {l l' : Ledger} {a : Action} {es es' : List Event}

/-- Nothing is in the queue, and nothing will be. -/
def IsExhausted (l : Ledger) : Prop := l.isClosed = true ∧ l.queue = []

@[simp] theorem acceptedPoints_farewell (l : Ledger) : acceptedPoints l.farewell = [] := by
  unfold farewell
  split <;> split <;> rfl

@[simp] theorem discardedPoints_farewell (l : Ledger) :
    discardedPoints l.farewell = l.queue := by
  unfold farewell
  split <;> split <;> rename_i hq <;> simp_all [discardedPoints]

@[simp] theorem takenBatches_farewell (l : Ledger) : takenBatches l.farewell = [] := by
  unfold farewell
  split <;> split <;> rfl

/-- Giving up all points settles the story of the batch in flight. -/
theorem tracks_farewell {c : Client} {ds : List Dispatch} (h : Tracks c l.flight ds) :
    Tracks c none (l.farewell.foldl recount ds) := by
  -- buffered points have no story yet
  have discard (ds : List Dispatch) :
      (if l.queue.isEmpty then [] else [Event.discarded l.queue]).foldl recount ds = ds := by
    split <;> rfl
  rw [farewell, List.foldl_append, discard]
  generalize hf : l.flight = flight at h
  cases h with
  | free settled =>
    have : l.inFlight = [] := inFlight_of_free hf
    rw [this]
    exact .free settled
  | @busy ds d f settled current =>
    -- the batch in flight is not empty, so its end is told
    have hb : l.inFlight = d.batch := by rw [inFlight_of_flight hf, current.batch_eq]
    have : l.inFlight.isEmpty = false := by
      rw [hb]
      simpa using current.nonempty
    simp only [this, Bool.false_eq_true, if_false, List.foldl_cons, List.foldl_nil, recount,
      List.modifyLast_concat]
    exact .settle settled current.abandoned

/-- Points enter the queue at its end and leave it at its front. -/
theorem Step.queue_append (h : Step l a es l') :
    l.queue ++ acceptedPoints es =
      (takenBatches es).flatten ++ (discardedPoints es ++ l'.queue) := by
  cases h with
  | accept points => simp [acceptedPoints, takenBatches, discardedPoints]
  | dispatch a batch rest request manned free front =>
    simp [acceptedPoints, takenBatches, discardedPoints, front]
  | refuse a batch rest report manned free front =>
    simp [acceptedPoints, takenBatches, discardedPoints, front]
  | discard => simp [cleared]
  | collapse => simp [cleared]
  | writeOff => simp
  | _ => simp [acceptedPoints, takenBatches, discardedPoints]

theorem Step.isExhausted (h : Step l a es l') (hl : l.IsExhausted) :
    l'.IsExhausted ∧ takenBatches es = [] := by
  obtain ⟨closed, empty⟩ := hl
  -- no batch comes off an empty queue
  have stuck {batch rest : List Point} (front : l.queue = batch ++ rest) (hb : batch ≠ []) :
      False := by
    rw [empty] at front
    exact hb (List.append_eq_nil_iff.1 front.symm).1
  cases h with
  | accept points inRuntime isOpen => rw [closed] at isOpen; cases isOpen
  | dispatch a batch rest request manned free front nonempty => exact (stuck front nonempty).elim
  | refuse a batch rest report manned free front nonempty => exact (stuck front nonempty).elim
  | close manned => exact ⟨⟨rfl, empty⟩, rfl⟩
  | discard => exact ⟨⟨rfl, rfl⟩, by simp⟩
  | collapse => exact ⟨⟨rfl, rfl⟩, by simp⟩
  | writeOff => exact ⟨⟨closed, empty⟩, by simp⟩
  | _ => exact ⟨⟨closed, empty⟩, rfl⟩

/-- What throws points away throws all of them away. -/
theorem Step.isExhausted_of_discarded (h : Step l a es l') (hd : discardedPoints es ≠ []) :
    l'.IsExhausted := by
  cases h with
  | discard => exact ⟨rfl, rfl⟩
  | collapse => exact ⟨rfl, rfl⟩
  | writeOff => exact absurd (discardedPoints_lossEvents _ _) hd
  | _ => exact absurd rfl hd

theorem Step.sized (h : Step l a es l') :
    ∀ batch ∈ takenBatches es, batch ≠ [] ∧ batch.length ≤ l.setup.maxBatchSize := by
  cases h with
  | dispatch a batch rest request manned free front nonempty bounded =>
    simpa [takenBatches] using ⟨nonempty, bounded⟩
  | refuse a batch rest report manned free front nonempty bounded =>
    simpa [takenBatches] using ⟨nonempty, bounded⟩
  | discard => simp
  | collapse => simp
  | writeOff => simp
  | _ => simp [takenBatches]

/-- Every change of the batch in flight is told in its story. -/
theorem Step.tracks (h : Step l a es l') (ho : l.Orderly) {ds : List Dispatch}
    (ht : Tracks l.setup.client l.flight ds) :
    Tracks l.setup.client l'.flight (es.foldl recount ds) := by
  cases h with
  | rest => exact ht
  | reject n => exact ht
  | accept points inRuntime isOpen => exact ht
  | start thread idle =>
    -- there was no worker, so there is no batch in flight
    rw [ho.unmanned (ho.unstarted idle)] at ht
    exact ht
  | stop manned => exact ht
  | close manned => exact ht
  | dispatch a batch rest request manned free front nonempty bounded =>
    -- a new story begins behind the settled ones
    rw [free] at ht
    refine .busy ht.settled_of_free ⟨rfl, nonempty, rfl, rfl, ?_⟩
    intro earlier outcome ha
    simp at ha
  | refuse a batch rest report manned free front nonempty bounded =>
    -- a new story begins and ends
    rw [free] at ht
    have := Tracks.settle ht.settled_of_free (Dispatch.isSettled_refused _ batch)
    simpa [recount, free, List.modifyLast_concat] using this
  | retry f outcome wait manned flying awaited retried =>
    -- the latest story goes on, with one more answer
    rw [flying] at ht
    obtain ⟨ds, d, rfl, settled, current⟩ := ht.eq_append_of_busy
    simp only [List.foldl_cons, List.foldl_nil, recount, List.modifyLast_concat]
    exact .busy settled (current.retry awaited retried wait)
  | resume f wait manned flying waiting =>
    rw [flying] at ht
    obtain ⟨ds, d, rfl, settled, current⟩ := ht.eq_append_of_busy
    exact .busy settled (current.resume waiting)
  | acknowledge f bytes manned flying awaited final =>
    -- the latest story ends with this answer
    rw [flying] at ht
    obtain ⟨ds, d, rfl, settled, current⟩ := ht.eq_append_of_busy
    simp only [List.foldl_cons, List.foldl_nil, recount, List.modifyLast_concat]
    exact .settle settled (current.acknowledged awaited final)
  | drop f outcome report manned flying awaited refused =>
    rw [flying] at ht
    obtain ⟨ds, d, rfl, settled, current⟩ := ht.eq_append_of_busy
    simp only [List.foldl_cons, List.foldl_nil, recount, List.modifyLast_concat]
    exact .settle settled (current.dropped refused)
  | discard =>
    rw [List.foldl_append, recount_lossEvents]
    exact tracks_farewell ht
  | collapse =>
    rw [List.foldl_append, recount_lossEvents]
    exact tracks_farewell ht
  | writeOff =>
    rw [recount_lossEvents]
    exact ht

/-! ### What holds after every run -/

/-- The events explain the ledger. -/
structure Explains (u : Setup) (l : Ledger) (es : List Event) : Prop where
  setup_eq : l.setup = u
  orderly : l.Orderly
  order : acceptedPoints es = (takenBatches es).flatten ++ (discardedPoints es ++ l.queue)
  exhausted : discardedPoints es ≠ [] → l.IsExhausted
  sized : ∀ batch ∈ takenBatches es, batch ≠ [] ∧ batch.length ≤ u.maxBatchSize
  tracks : Tracks u.client l.flight (dispatches es)

theorem explains_fresh (u : Setup) : Explains u (fresh u) [] where
  setup_eq := rfl
  orderly := orderly_fresh u
  order := rfl
  exhausted := nofun
  sized := nofun
  tracks := .free nofun

/-- Every change is explained by its events. -/
theorem Step.explains {u : Setup} (h : Step l a es' l') (he : Explains u l es) :
    Explains u l' (es ++ es') where
  setup_eq := h.setup_eq.trans he.setup_eq
  orderly := h.orderly he.orderly
  order := by
    -- nothing is taken after something was thrown away
    have swap : discardedPoints es ++ (takenBatches es').flatten =
        (takenBatches es').flatten ++ discardedPoints es := by
      by_cases hd : discardedPoints es = []
      · rw [hd, List.nil_append, List.append_nil]
      · rw [(h.isExhausted (he.exhausted hd)).2]
        simp
    calc acceptedPoints (es ++ es')
      _ = (takenBatches es).flatten ++ discardedPoints es ++ (l.queue ++ acceptedPoints es') := by
        simp [he.order]
      _ = (takenBatches es).flatten ++ (discardedPoints es ++ (takenBatches es').flatten) ++
          (discardedPoints es' ++ l'.queue) := by
        simp [h.queue_append]
      _ = (takenBatches (es ++ es')).flatten ++ (discardedPoints (es ++ es') ++ l'.queue) := by
        simp [swap]
  exhausted hd := by
    by_cases hes : discardedPoints es = []
    · refine h.isExhausted_of_discarded ?_
      simpa [hes] using hd
    · exact (h.isExhausted (he.exhausted hes)).1
  sized batch hb := by
    rw [takenBatches_append] at hb
    rcases List.mem_append.1 hb with hb | hb
    · exact he.sized batch hb
    · have := h.sized batch hb
      rwa [he.setup_eq] at this
  tracks := by
    have ht := he.tracks
    rw [← he.setup_eq] at ht ⊢
    rw [dispatches_append]
    exact h.tracks he.orderly ht

end Ledger

/-- **Points leave in order.**  After any operations on a sender that was built, the batches that
were taken, followed by what was thrown away or is still buffered, are the accepted points in
their order.  No batch is empty or too large.  A batch that is not in flight any more is dropped
or abandoned if and only if it was not acknowledged. -/
theorem taken_in_order {b : SenderBuilder} {s : Sender} (built : b.build = .ok s)
    (ops : List Station.Operation) :
    let t := s.after ops
    let es := s.history ops
    acceptedPoints es =
      (takenBatches es).flatten ++ (discardedPoints es ++ t.buffer.contents) ∧
    (discardedPoints es = [] ∨ t.buffer.contents = []) ∧
    (∀ batch ∈ takenBatches es, batch ≠ [] ∧ batch.length ≤ s.setup.maxBatchSize) ∧
    (dispatches es).map (·.batch) = takenBatches es ∧
    (∀ d ∈ dispatches es, ∀ fate, d.fate = some fate →
      (fate = .dropped ∨ fate = .abandoned ↔ ¬d.IsAcknowledged s.setup.client)) ∧
    ((dispatches es).filter (·.fate.isNone)).flatMap (·.batch) = t.inFlight := by
  intro t es
  have he : Ledger.Explains s.setup t.ledger es :=
    after_induction built ops (Ledger.explains_fresh s.setup) fun he _ hs => hs.explains he
  -- points are thrown away all at once, and none is buffered afterwards
  have empty : discardedPoints es = [] ∨ t.buffer.contents = [] := by
    by_cases hd : discardedPoints es = []
    · exact .inl hd
    · exact .inr (he.exhausted hd).2
  have fates : ∀ d ∈ dispatches es, ∀ fate, d.fate = some fate →
      (fate = .dropped ∨ fate = .abandoned ↔ ¬d.IsAcknowledged s.setup.client) :=
    fun d hd => he.tracks.fate_iff hd
  refine ⟨he.order, empty, he.sized, map_batch_dispatches es, fates, ?_⟩
  rw [he.tracks.unsettled, ← inFlight_ledger, Ledger.inFlight]
  cases t.ledger.flight <;> rfl

theorem taken_in_order_sample :
    ∃ s, sampleBuilder.build = .ok s ∧
      (takenBatches (s.history sampleOps)).map (·.length) = [2, 1] ∧
      (dispatches (s.history sampleOps)).map (·.fate.isSome) = [true, true] ∧
      acceptedPoints (s.history sampleOps) =
        (takenBatches (s.history sampleOps)).flatten ++
          (discardedPoints (s.history sampleOps) ++ (s.after sampleOps).buffer.contents) :=
  ⟨_, rfl, by decide, by decide, (taken_in_order (b := sampleBuilder) rfl sampleOps).1⟩

end Sender
end MetricRelay
