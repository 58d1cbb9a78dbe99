import Mathlib.Algebra.BigOperators.Group.List.Basic
import Mathlib.Algebra.Ring.Nat
import MetricRelay.Proofs.Sender.Dispatch
import MetricRelay.Proofs.Sender.Shutdown

/-!
# Reports and counters agree

Points that are given up are counted and reported side by side, and so both tell the same: what
each change adds to the counters is in the reports that it makes (`Sender.Ledger.Step.tells`).
A batch that was taken is sent or dropped, or it is in flight, or it was abandoned, and the latter
two can only be said of one batch (`Sender.Ledger.Step.settles`).

A `Sender.Sending` is what was sent for one batch, as the events tell it.  The same request is made
for all attempts, and its length is counted once, when it is acknowledged
(`Sender.Ledger.Step.carries`).
-/

namespace MetricRelay

/-! ### Handlers and tallies -/

/-- The handler after reports. -/
def Handler.after (h : Handler) (rs : List Report) : Handler :=
  { h with state := rs.foldl h.handle h.state }

namespace Tally

theorem total_ofReports (rs : List Report) : (ofReports rs).total = rs.length := by
  induction rs using List.reverseRecOn with
  | nil => rfl
  | append_singleton rs r ih =>
    rw [ofReports, List.foldl_append, ← ofReports, List.length_append, ← ih]
    cases hk : r.kind <;> simp [add, hk]

/-- A tally counts the reports of each kind. -/
theorem count_ofReports (rs : List Report) (kind : ReportKind) :
    (ofReports rs).count kind = rs.countP (·.kind = kind) := by
  induction rs using List.reverseRecOn with
  | nil => cases kind <;> rfl
  | append_singleton rs r ih =>
    rw [ofReports, List.foldl_append, ← ofReports, List.countP_append, ← ih]
    cases hk : r.kind <;> cases kind <;> simp [add, count, hk]

/-- The total is the sum of the counts of all kinds. -/
theorem total_eq_sum (rs : List Report) :
    (ofReports rs).total = (ReportKind.all.map (ofReports rs).count).sum := by
  induction rs using List.reverseRecOn with
  | nil => rfl
  | append_singleton rs r ih =>
    rw [ofReports, List.foldl_append, ← ofReports]
    simp only [ReportKind.all, List.map_cons, List.map_nil, List.sum_cons, List.sum_nil] at ih ⊢
    cases hk : r.kind <;> simp only [List.foldl_cons, List.foldl_nil, add, hk, count] at ih ⊢ <;>
      omega

end Tally

namespace Sender

/-! ### What events tell -/

/-- The reports in the order in which they were made. -/
def reports (es : List Event) : List Report :=
  es.filterMap fun
    | .reported report => some report
    | _ => none

/-- The reports of batches that were given up. -/
def failures (es : List Event) : List Report := (reports es).filter (·.kind ≠ .shutdownDataLoss)

/-- The reports of points that were left when the sender stopped. -/
def losses (es : List Event) : List Report := (reports es).filter (·.kind = .shutdownDataLoss)

/-- The number of points that reports tell of. -/
def pointsOf (rs : List Report) : Nat := (rs.map (·.points)).sum

/-- The batches whose delivery was cut off. -/
def abandonedBatches (es : List Event) : List (List Point) :=
  es.filterMap fun
    | .settled batch .abandoned => some batch
    | _ => none

@[simp] theorem reports_nil : reports [] = [] := rfl

@[simp] theorem reports_append (es es' : List Event) :
    reports (es ++ es') = reports es ++ reports es' :=
  List.filterMap_append

@[simp] theorem failures_append (es es' : List Event) :
    failures (es ++ es') = failures es ++ failures es' := by
  simp [failures]

@[simp] theorem losses_append (es es' : List Event) :
    losses (es ++ es') = losses es ++ losses es' := by
  simp [losses]

@[simp] theorem pointsOf_append (rs rs' : List Report) :
    pointsOf (rs ++ rs') = pointsOf rs + pointsOf rs' := by
  simp [pointsOf]

@[simp] theorem abandonedBatches_append (es es' : List Event) :
    abandonedBatches (es ++ es') = abandonedBatches es ++ abandonedBatches es' :=
  List.filterMap_append

/-- **All handlers are told the same.** -/
theorem inform_eq (hs : List Handler) (es : List Event) :
    inform hs es = hs.map (·.after (reports es)) := by
  induction es generalizing hs with
  | nil => exact (List.map_id hs).symm
  | cons e es ih =>
    cases e with
    | reported report =>
      have first : inform hs (.reported report :: es) = inform (Handler.tellAll hs report) es := rfl
      rw [first, ih, Handler.tellAll, List.map_map]
      rfl
    | _ => exact ih hs

/-- A loss is told in one report, unless there is none. -/
theorem reports_lossEvents (n : Nat) (report : Nat → Report) :
    reports (lossEvents n report) = if n = 0 then [] else [report n] := by
  unfold lossEvents
  split <;> rfl

@[simp] theorem abandonedBatches_lossEvents (n : Nat) (report : Nat → Report) :
    abandonedBatches (lossEvents n report) = [] := by
  unfold lossEvents
  split <;> rfl

section Losses

variable {quiet : List Event} {report : Nat → Report} (n : Nat) (silent : reports quiet = [])
include silent

theorem reports_append_lossEvents :
    reports (quiet ++ lossEvents n report) = if n = 0 then [] else [report n] := by
  rw [reports_append, silent, List.nil_append, reports_lossEvents]

variable (kind_eq : (report n).kind = .shutdownDataLoss)
include kind_eq

theorem failures_append_lossEvents : failures (quiet ++ lossEvents n report) = [] := by
  rw [failures, reports_append_lossEvents n silent]
  split <;> simp [kind_eq]

theorem losses_append_lossEvents :
    losses (quiet ++ lossEvents n report) = if n = 0 then [] else [report n] := by
  rw [losses, reports_append_lossEvents n silent]
  split <;> simp [kind_eq]

theorem pointsOf_losses_append_lossEvents (points_eq : (report n).points = n) :
    pointsOf (losses (quiet ++ lossEvents n report)) = n := by
  rw [losses_append_lossEvents n silent kind_eq]
  split
  · rename_i zero
    exact zero.symm
  · simpa [pointsOf] using points_eq

end Losses

/-! ### What a change counts and reports -/

namespace Ledger

variable {l l' : Ledger} {a : Action} {es es' : List Event}

@[simp] theorem reports_farewell (l : Ledger) : reports l.farewell = [] := by
  unfold farewell
  split <;> split <;> rfl

/-- What is added to the counters of points that were given up is told in reports. -/
structure Tells (l : Ledger) (es : List Event) (l' : Ledger) : Prop where
  dropped_eq : l'.stats.dropped = l.stats.dropped + pointsOf (failures es)
  failed_eq : l'.stats.batchesFailed = l.stats.batchesFailed + (failures es).length
  lost_eq : l'.stats.lost = l.stats.lost + pointsOf (losses es)

/-- A batch that is given up is told in one report. -/
theorem tells_of_givesUp {batch : List Point} {report : Report}
    (told : GivesUp l.setup batch report)
    (reports_eq : reports es = [report]) (stats_eq : l'.stats = l.stats.drop batch.length) :
    l.Tells es l' := by
  have failures_eq : failures es = [report] := by
    simp [failures, reports_eq, told.kind_ne]
  have losses_eq : losses es = [] := by
    simp [losses, reports_eq, told.kind_ne]
  refine ⟨?_, ?_, ?_⟩
  · simp [stats_eq, failures_eq, pointsOf, told.points_eq, Stats.drop]
  · simp [stats_eq, failures_eq, Stats.drop]
  · simp [stats_eq, losses_eq, pointsOf, Stats.drop]

/-- Points that are left are told in one report, unless there are none. -/
theorem tells_of_loss {n : Nat} {report : Nat → Report} {quiet : List Event}
    (silent : reports quiet = []) (kind_eq : (report n).kind = .shutdownDataLoss)
    (points_eq : (report n).points = n) (stats_eq : l'.stats = l.stats.lose n) :
    l.Tells (quiet ++ lossEvents n report) l' := by
  have no_failures := failures_append_lossEvents n silent kind_eq
  refine ⟨?_, ?_, ?_⟩
  · simp [stats_eq, no_failures, pointsOf, Stats.lose]
  · simp [stats_eq, no_failures, Stats.lose]
  · rw [pointsOf_losses_append_lossEvents n silent kind_eq points_eq, stats_eq]
    rfl

/-- **Every change counts what it reports.** -/
theorem Step.tells (h : Step l a es l') : l.Tells es l' := by
  cases h with
  | refuse a batch rest report manned free front nonempty bounded told =>
    exact tells_of_givesUp told rfl rfl
  | drop f outcome report manned flying awaited refused told =>
    exact tells_of_givesUp told rfl rfl
  | discard => exact tells_of_loss l.reports_farewell rfl rfl rfl
  | collapse => exact tells_of_loss l.reports_farewell rfl rfl rfl
  | writeOff => exact tells_of_loss reports_nil rfl rfl rfl
  | _ => exact ⟨rfl, rfl, rfl⟩

/-! ### What becomes of a batch -/

/-- The number of batches in flight. -/
def airborne (l : Ledger) : Nat := if l.flight.isSome then 1 else 0

/-- The batch in flight has points in it. -/
def IsLoaded (l : Ledger) : Prop := ∀ f, l.flight = some f → f.batch ≠ []

theorem isLoaded_of_free (free : l.flight = none) : l.IsLoaded := by
  intro f hf
  rw [free] at hf
  cases hf

theorem Step.isLoaded (h : Step l a es l') (loaded : l.IsLoaded) : l'.IsLoaded := by
  cases h with
  | dispatch a batch rest request manned free front nonempty =>
    intro f hf
    cases hf
    exact nonempty
  | retry f outcome wait manned flying =>
    intro f' hf
    cases hf
    exact loaded f flying
  | resume f wait manned flying =>
    intro f' hf
    cases hf
    exact loaded f flying
  | start => exact isLoaded_of_free rfl
  | acknowledge => exact isLoaded_of_free rfl
  | drop => exact isLoaded_of_free rfl
  | discard => exact isLoaded_of_free rfl
  | collapse => exact isLoaded_of_free rfl
  | _ => exact loaded

/-- Giving up all points abandons the batch in flight. -/
theorem length_abandonedBatches_farewell (loaded : l.IsLoaded) :
    (abandonedBatches l.farewell).length = l.airborne := by
  have silent : abandonedBatches (if l.queue.isEmpty then [] else [.discarded l.queue]) = [] := by
    split <;> rfl
  rw [farewell, abandonedBatches_append, silent, List.append_nil]
  cases hf : l.flight with
  | none => simp [inFlight, airborne, hf, abandonedBatches]
  | some f =>
    have full : l.inFlight.isEmpty = false := by
      rw [inFlight_of_flight hf]
      simpa using loaded f hf
    simp [full, airborne, hf, abandonedBatches]

/-- **A batch is sent, dropped or abandoned, or it is still in flight.** -/
theorem Step.settles (h : Step l a es l') (ho : l.Orderly) (loaded : l.IsLoaded) :
    l.stats.batchesSent + l.stats.batchesFailed + l.airborne + (takenBatches es).length =
      l'.stats.batchesSent + l'.stats.batchesFailed + l'.airborne +
        (abandonedBatches es).length := by
  have clear := length_abandonedBatches_farewell loaded
  cases h with
  | start thread idle =>
    simp [airborne, ho.unmanned (ho.unstarted idle), takenBatches, abandonedBatches]
  | dispatch a batch rest request manned free =>
    simp [airborne, free, takenBatches, abandonedBatches]
  | refuse a batch rest report manned free =>
    simp [airborne, free, takenBatches, abandonedBatches, Stats.drop, Nat.add_assoc]
  | retry f outcome wait manned flying =>
    simp [airborne, flying, takenBatches, abandonedBatches]
  | resume f wait manned flying =>
    simp [airborne, flying, takenBatches, abandonedBatches]
  | acknowledge f bytes manned flying =>
    have busy : l.airborne = 1 := by simp [airborne, flying]
    change l.stats.batchesSent + l.stats.batchesFailed + l.airborne =
      l.stats.batchesSent + 1 + l.stats.batchesFailed
    omega
  | drop f outcome report manned flying =>
    simp [airborne, flying, takenBatches, abandonedBatches, Stats.drop, Nat.add_assoc]
  | discard => simp [cleared, clear, Stats.lose, airborne]
  | collapse => simp [cleared, clear, Stats.lose, airborne]
  | writeOff => simp [airborne, Stats.lose]
  | _ => rfl

/-! ### What happens once -/

/-- The worker's part is over for good. -/
def IsGone (l : Ledger) : Prop := l.lifecycle ≠ .idle ∧ l.hasWorker = false

/-- The sender is stopped, and its worker's part is over. -/
def IsOver (l : Ledger) : Prop := l.lifecycle = .stopped ∧ l.hasWorker = false

/-- Something has happened once at most, and then there is no more to come. -/
def AtMostOnce {α : Type} (final : Prop) (xs : List α) : Prop := xs = [] ∨ xs.length = 1 ∧ final

theorem AtMostOnce.length_le {α : Type} {final : Prop} {xs : List α} (h : AtMostOnce final xs) :
    xs.length ≤ 1 := by
  rcases h with rfl | ⟨one, -⟩
  · exact Nat.zero_le 1
  · exact Nat.le_of_eq one

theorem AtMostOnce.append {α : Type} {final final' : Prop} {xs ys : List α}
    (before : AtMostOnce final xs) (now : AtMostOnce final' ys)
    (later : final → final' ∧ ys = []) : AtMostOnce final' (xs ++ ys) := by
  rcases before with rfl | ⟨one, done⟩
  · exact now
  · obtain ⟨done', rfl⟩ := later done
    exact .inr ⟨by simpa using one, done'⟩

theorem ne_idle_of_stops {before after : Lifecycle} (started : before ≠ .idle)
    (stops : after = before ∨ after = .stopped) : after ≠ .idle := by
  rcases stops with rfl | rfl
  · exact started
  · nofun

/-- Without a worker nothing happens to what was started, but that a loss is written off. -/
theorem Step.of_gone (h : Step l a es l') (ho : l.Orderly) (gone : l.IsGone) :
    l'.IsGone ∧
      (es = [] ∨ l.lifecycle = .running ∧ es = lossEvents l.stats.pending .ofBreakdown) := by
  obtain ⟨started, unmanned⟩ := gone
  obtain ⟨empty, closed⟩ := ho.ended started unmanned
  have free := ho.unmanned unmanned
  cases h with
  | rest => exact ⟨⟨started, unmanned⟩, .inl rfl⟩
  | reject => exact ⟨⟨started, unmanned⟩, .inl rfl⟩
  | accept points inRuntime isOpen => rw [closed] at isOpen; cases isOpen
  | start thread idle => exact absurd idle started
  | stop => exact ⟨⟨nofun, unmanned⟩, .inl rfl⟩
  | collapse a lifecycle lost cause =>
    rcases cause.manned_or_idle with manned | idle
    · rw [unmanned] at manned
      cases manned
    · exact absurd idle started
  | discard a lifecycle stops =>
    refine ⟨⟨ne_idle_of_stops started stops, rfl⟩, .inl ?_⟩
    simp [farewell, inFlight_of_free free, empty, lossEvents]
  | writeOff running =>
    exact ⟨⟨ne_idle_of_stops started (.inr rfl), unmanned⟩, .inr ⟨running, rfl⟩⟩
  | _ =>
    -- all other changes are made by a worker
    have manned : l.hasWorker = true := by assumption
    rw [unmanned] at manned
    cases manned

theorem Step.isOver (h : Step l a es l') (ho : l.Orderly) (finished : l.IsOver) :
    l'.IsOver ∧ losses es = [] := by
  have started : l.lifecycle ≠ .idle := by rw [finished.1]; nofun
  obtain ⟨gone, rfl | ⟨running, -⟩⟩ := h.of_gone ho ⟨started, finished.2⟩
  · exact ⟨⟨h.stopped finished.1, gone.2⟩, rfl⟩
  · cases finished.1.symm.trans running

theorem Step.isGone (h : Step l a es l') (ho : l.Orderly) (gone : l.IsGone) :
    l'.IsGone ∧ abandonedBatches es = [] := by
  obtain ⟨gone', rfl | ⟨-, rfl⟩⟩ := h.of_gone ho gone
  · exact ⟨gone', rfl⟩
  · exact ⟨gone', abandonedBatches_lossEvents _ _⟩

/-- A loss that is told ends the ledger's story. -/
theorem atMostOnce_lossEvents {final : Prop} {n : Nat} {report : Nat → Report} {quiet : List Event}
    (silent : reports quiet = []) (kind_eq : (report n).kind = .shutdownDataLoss)
    (done : n = 0 ∨ final) : AtMostOnce final (losses (quiet ++ lossEvents n report)) := by
  rw [losses_append_lossEvents n silent kind_eq]
  split
  · exact .inl rfl
  · rename_i some_points
    exact .inr ⟨rfl, done.resolve_left some_points⟩

theorem Step.losses_once (h : Step l a es l') (sized : 0 < l.setup.maxBatchSize) :
    AtMostOnce l'.IsOver (losses es) := by
  cases h with
  | refuse a batch rest report manned free front nonempty bounded told =>
    exact .inl (by simp [losses, reports, told.kind_ne])
  | drop f outcome report manned flying awaited refused told =>
    exact .inl (by simp [losses, reports, told.kind_ne])
  | discard a lifecycle stops finished =>
    refine atMostOnce_lossEvents l.reports_farewell rfl ?_
    rcases finished with stopped | ⟨free, left⟩
    · exact .inr ⟨stopped, rfl⟩
    · -- no batch is left, and a batch would have room for a point
      have empty : l.queue = [] := by
        rcases List.take_eq_nil_iff.1 left with zero | empty
        · exact absurd zero (Nat.ne_of_gt sized)
        · exact empty
      exact .inl (by rw [inFlight_of_free free, empty]; rfl)
  | collapse a lifecycle lost cause =>
    exact atMostOnce_lossEvents l.reports_farewell rfl (cause.counted.imp_right fun stopped =>
      ⟨stopped, rfl⟩)
  | writeOff running unmanned =>
    exact atMostOnce_lossEvents reports_nil rfl (.inr ⟨rfl, unmanned⟩)
  | _ => exact .inl rfl

/-- Giving up all points ends the worker's part, and there is one batch at most to abandon. -/
theorem atMostOnce_farewell (ho : l.Orderly) (loaded : l.IsLoaded) {final : Prop}
    (done : l.lifecycle ≠ .idle → final) : AtMostOnce final (abandonedBatches l.farewell) := by
  have length_eq := length_abandonedBatches_farewell loaded
  cases hf : l.flight with
  | none =>
    refine .inl (List.length_eq_zero_iff.1 (length_eq.trans ?_))
    simp [airborne, hf]
  | some f =>
    refine .inr ⟨length_eq.trans (by simp [airborne, hf]), done fun idle => ?_⟩
    rw [ho.unmanned (ho.unstarted idle)] at hf
    cases hf

theorem Step.abandons_once (h : Step l a es l') (ho : l.Orderly) (loaded : l.IsLoaded) :
    AtMostOnce l'.IsGone (abandonedBatches es) := by
  cases h with
  | discard a lifecycle stops =>
    rw [abandonedBatches_append, abandonedBatches_lossEvents, List.append_nil]
    exact atMostOnce_farewell ho loaded fun started => ⟨ne_idle_of_stops started stops, rfl⟩
  | collapse a lifecycle lost cause =>
    rw [abandonedBatches_append, abandonedBatches_lossEvents, List.append_nil]
    exact atMostOnce_farewell ho loaded fun started => ⟨cause.started started, rfl⟩
  | writeOff => exact .inl (abandonedBatches_lossEvents _ _)
  | _ => exact .inl rfl

end Ledger

/-! ### What was sent -/

/-- What was sent for a batch. -/
structure Sending where
  /-- The requests of all attempts in order. -/
  requests : List Request := []
  isAcknowledged : Bool := false

namespace Sending

/-- All attempts made the same request, and what is acknowledged was attempted. -/
structure IsSound (d : Sending) : Prop where
  uniform : ∀ r ∈ d.requests, ∀ r' ∈ d.requests, r = r'
  attempted : d.isAcknowledged = true → d.requests ≠ []

/-- The length of the body of one request. -/
def bytes (d : Sending) : Nat := (d.requests.head?.map (·.body.length)).getD 0

/-- Some attempt was made, and all of them made this request. -/
structure Repeats (d : Sending) (request : Request) : Prop where
  attempted : d.requests ≠ []
  same : ∀ r ∈ d.requests, r = request

theorem Repeats.isSound {d : Sending} {request : Request} (h : d.Repeats request) :
    d.IsSound where
  uniform r hr r' hr' := (h.same r hr).trans (h.same r' hr').symm
  attempted _ := h.attempted

theorem Repeats.bytes_eq {d : Sending} {request : Request} (h : d.Repeats request) :
    d.bytes = request.body.length := by
  obtain ⟨r, rs, hd⟩ := List.exists_cons_of_ne_nil h.attempted
  have first : r = request := h.same r (hd ▸ List.mem_cons_self)
  simp [bytes, hd, first]

theorem Repeats.again {d : Sending} {request : Request} (h : d.Repeats request) :
    Repeats { d with requests := d.requests ++ [request] } request where
  attempted := by simp
  same r hr := by
    rcases List.mem_append.1 hr with hr | hr
    · exact h.same r hr
    · exact List.mem_singleton.1 hr

end Sending

/-- The sendings with one more event, which belongs to the latest batch. -/
def resend (ds : List Sending) : Event → List Sending
  | .taken _ => ds ++ [({} : Sending)]
  | .requested request => ds.modifyLast fun d => { d with requests := d.requests ++ [request] }
  | .settled _ (.acknowledged _) => ds.modifyLast fun d => { d with isAcknowledged := true }
  | _ => ds

/-- What was sent, batch by batch. -/
def sendings (es : List Event) : List Sending := es.foldl resend []

theorem sendings_append (es es' : List Event) :
    sendings (es ++ es') = es'.foldl resend (sendings es) :=
  List.foldl_append

theorem resend_lossEvents (ds : List Sending) (n : Nat) (report : Nat → Report) :
    (lossEvents n report).foldl resend ds = ds := by
  unfold lossEvents
  split <;> rfl

/-- The sendings that were acknowledged. -/
def acknowledgedSendings (ds : List Sending) : List Sending := ds.filter (·.isAcknowledged)

namespace Ledger

variable {l l' : Ledger} {a : Action} {es : List Event} {ds : List Sending}

theorem resend_farewell (l : Ledger) (ds : List Sending) : l.farewell.foldl resend ds = ds := by
  unfold farewell
  split <;> split <;> rfl

/-- What a ledger counts of the batches that were acknowledged.  The requests for the batch in
flight are the latest ones. -/
structure Carries (l : Ledger) (ds : List Sending) : Prop where
  sent_eq : l.stats.batchesSent = (acknowledgedSendings ds).length
  bytes_eq : l.stats.bytesSent = ((acknowledgedSendings ds).map (·.bytes)).sum
  sound : ∀ d ∈ ds, d.IsSound
  current : ∀ f, l.flight = some f →
    ∃ before d, ds = before ++ [d] ∧ d.isAcknowledged = false ∧ d.Repeats f.request

/-- Nothing was acknowledged, and no batch is in flight that was not before. -/
theorem Carries.unsent (h : l.Carries ds) (sent : l'.stats.batchesSent = l.stats.batchesSent)
    (bytes : l'.stats.bytesSent = l.stats.bytesSent)
    (flight_eq : l'.flight = none ∨ l'.flight = l.flight) : l'.Carries ds where
  sent_eq := sent.trans h.sent_eq
  bytes_eq := bytes.trans h.bytes_eq
  sound := h.sound
  current f hf := by
    rcases flight_eq with free | same
    · rw [free] at hf
      cases hf
    · exact h.current f (same ▸ hf)

/-- A batch for which there is no request yet. -/
theorem Carries.taken (h : l.Carries ds) (free : l.flight = none) :
    l.Carries (ds ++ [({} : Sending)]) where
  sent_eq := by simp [acknowledgedSendings, h.sent_eq]
  bytes_eq := by simp [acknowledgedSendings, h.bytes_eq]
  sound d hd := by
    rcases List.mem_append.1 hd with hd | hd
    · exact h.sound d hd
    · obtain rfl := List.mem_singleton.1 hd
      exact ⟨fun r hr => (List.not_mem_nil hr).elim, nofun⟩
  current f hf := by
    rw [free] at hf
    cases hf

/-- More is known of the latest batch, which is still in flight. -/
theorem Carries.replace {before : List Sending} {d d' : Sending} {request : Request}
    (h : l.Carries (before ++ [d])) (pending : d.isAcknowledged = false)
    (pending' : d'.isAcknowledged = false) (repeats : d'.Repeats request)
    (stats_eq : l'.stats = l.stats) (flight_eq : ∀ f, l'.flight = some f → f.request = request) :
    l'.Carries (before ++ [d']) where
  sent_eq := by
    rw [stats_eq, h.sent_eq]
    simp [acknowledgedSendings, pending, pending']
  bytes_eq := by
    rw [stats_eq, h.bytes_eq]
    simp [acknowledgedSendings, pending, pending']
  sound e he := by
    rcases List.mem_append.1 he with he | he
    · exact h.sound e (List.mem_append_left _ he)
    · obtain rfl := List.mem_singleton.1 he
      exact repeats.isSound
  current f hf := ⟨before, d', rfl, pending', flight_eq f hf ▸ repeats⟩

/-- The latest batch is acknowledged. -/
theorem Carries.acknowledge {before : List Sending} {d : Sending} {request : Request}
    (h : l.Carries (before ++ [d])) (pending : d.isAcknowledged = false)
    (repeats : d.Repeats request) (points : Nat)
    (stats_eq : l'.stats = l.stats.send points request.body.length) (free : l'.flight = none) :
    l'.Carries (before ++ [{ d with isAcknowledged := true }]) where
  sent_eq := by
    rw [stats_eq, Stats.send, h.sent_eq]
    simp [acknowledgedSendings, pending]
  bytes_eq := by
    have bytes_eq : Sending.bytes { d with isAcknowledged := true } = request.body.length :=
      repeats.bytes_eq
    rw [stats_eq, Stats.send, h.bytes_eq]
    simp [acknowledgedSendings, pending, bytes_eq]
  sound e he := by
    rcases List.mem_append.1 he with he | he
    · exact h.sound e (List.mem_append_left _ he)
    · obtain rfl := List.mem_singleton.1 he
      exact ⟨repeats.isSound.uniform, fun _ => repeats.attempted⟩
  current f hf := by
    rw [free] at hf
    cases hf

/-- **The length of a request is counted once**, whatever the number of attempts. -/
theorem Step.carries (h : Step l a es l') (hc : l.Carries ds) :
    l'.Carries (es.foldl resend ds) := by
  cases h with
  | rest => exact hc
  | reject => exact hc.unsent rfl rfl (.inr rfl)
  | accept => exact hc.unsent rfl rfl (.inr rfl)
  | start => exact hc.unsent rfl rfl (.inl rfl)
  | stop => exact hc.unsent rfl rfl (.inr rfl)
  | close => exact hc.unsent rfl rfl (.inr rfl)
  | dispatch a batch rest request manned free =>
    have first : Sending.Repeats { requests := [request] } request :=
      ⟨List.cons_ne_nil _ _, fun r hr => List.mem_singleton.1 hr⟩
    simp only [List.foldl_cons, List.foldl_nil, resend, List.modifyLast_concat]
    exact (hc.taken free).replace rfl rfl first rfl fun f hf => by cases hf; rfl
  | refuse a batch rest report manned free =>
    exact (hc.taken free).unsent rfl rfl (.inr rfl)
  | retry f outcome wait manned flying =>
    obtain ⟨before, d, rfl, pending, repeats⟩ := hc.current f flying
    exact hc.replace pending pending repeats rfl fun f' hf => by cases hf; rfl
  | resume f wait manned flying =>
    obtain ⟨before, d, rfl, pending, repeats⟩ := hc.current f flying
    simp only [List.foldl_cons, List.foldl_nil, resend, List.modifyLast_concat]
    exact hc.replace pending pending repeats.again rfl fun f' hf => by cases hf; rfl
  | acknowledge f bytes manned flying awaited final sized =>
    obtain ⟨before, d, rfl, pending, repeats⟩ := hc.current f flying
    simp only [List.foldl_cons, List.foldl_nil, resend, List.modifyLast_concat]
    exact hc.acknowledge pending repeats f.batch.length (by rw [sized]) rfl
  | drop => exact hc.unsent rfl rfl (.inl rfl)
  | discard =>
    rw [List.foldl_append, resend_farewell, resend_lossEvents]
    exact hc.unsent rfl rfl (.inl rfl)
  | collapse =>
    rw [List.foldl_append, resend_farewell, resend_lossEvents]
    exact hc.unsent rfl rfl (.inl rfl)
  | writeOff =>
    rw [resend_lossEvents]
    exact hc.unsent rfl rfl (.inr rfl)

/-! ### Runs -/

/-- What a ledger says of the events that led to it. -/
structure Accounts (l : Ledger) (es : List Event) : Prop where
  orderly : l.Orderly
  loaded : l.IsLoaded
  told : (fresh l.setup).Tells es l
  taken_eq : (takenBatches es).length =
    l.stats.batchesSent + l.stats.batchesFailed + l.airborne + (abandonedBatches es).length
  losses_once : AtMostOnce l.IsOver (losses es)
  abandons_once : AtMostOnce l.IsGone (abandonedBatches es)
  carried : l.Carries (sendings es)

theorem accounts_fresh (u : Setup) : (fresh u).Accounts [] where
  orderly := orderly_fresh u
  loaded := isLoaded_of_free rfl
  told := ⟨rfl, rfl, rfl⟩
  taken_eq := rfl
  losses_once := .inl rfl
  abandons_once := .inl rfl
  carried := ⟨rfl, rfl, nofun, nofun⟩

theorem Tells.trans {k : Ledger} {es' : List Event} (first : k.Tells es l)
    (second : l.Tells es' l') : k.Tells (es ++ es') l' where
  dropped_eq := by
    rw [second.dropped_eq, first.dropped_eq, failures_append, pointsOf_append, Nat.add_assoc]
  failed_eq := by
    rw [second.failed_eq, first.failed_eq, failures_append, List.length_append, Nat.add_assoc]
  lost_eq := by
    rw [second.lost_eq, first.lost_eq, losses_append, pointsOf_append, Nat.add_assoc]

theorem Step.accounts {es' : List Event} (h : Step l a es' l') (sized : 0 < l.setup.maxBatchSize)
    (ha : l.Accounts es) : l'.Accounts (es ++ es') where
  orderly := h.orderly ha.orderly
  loaded := h.isLoaded ha.loaded
  told := by
    rw [h.setup_eq]
    exact ha.told.trans h.tells
  taken_eq := by
    have settled := h.settles ha.orderly ha.loaded
    have before := ha.taken_eq
    simp only [takenBatches_append, abandonedBatches_append, List.length_append]
    omega
  losses_once := by
    rw [losses_append]
    exact ha.losses_once.append (h.losses_once sized) (h.isOver ha.orderly)
  abandons_once := by
    rw [abandonedBatches_append]
    exact ha.abandons_once.append (h.abandons_once ha.orderly ha.loaded) (h.isGone ha.orderly)
  carried := by
    rw [sendings_append]
    exact h.carries ha.carried

/-- The batches of which nothing has become are one at most. -/
theorem Accounts.unsettled_eq (h : l.Accounts es) :
    l.airborne + (abandonedBatches es).length =
      if l.inFlight ≠ [] ∨ abandonedBatches es ≠ [] then 1 else 0 := by
  rcases h.abandons_once with none_abandoned | ⟨one, gone⟩
  · cases hf : l.flight with
    | none => simp [none_abandoned, airborne, hf, inFlight]
    | some f => simp [none_abandoned, airborne, hf, inFlight, h.loaded f hf]
  · -- without a worker there is no batch in flight
    have free := h.orderly.unmanned gone.2
    have some_abandoned : abandonedBatches es ≠ [] := List.ne_nil_of_length_pos (by omega)
    simp [airborne, free, one, some_abandoned]

end Ledger

theorem accounts_after {b : SenderBuilder} {s : Sender} (built : b.build = .ok s)
    (ops : List Station.Operation) : (s.after ops).ledger.Accounts (s.history ops) := by
  have sized : 0 < s.setup.maxBatchSize := maxBatchSize_pos built []
  have := after_induction (P := fun l es => 0 < l.setup.maxBatchSize ∧ l.Accounts es) built ops
    ⟨sized, Ledger.accounts_fresh s.setup⟩ fun ⟨hm, ha⟩ _ h =>
      ⟨h.setup_eq.symm ▸ hm, h.accounts hm ha⟩
  exact this.2

/-- **Reports and counters agree.**  After any operations on a sender that was built, whoever is
told of its reports:

- All handlers are told of all reports, in the same order.
- The points that were dropped are those that the reports of failures tell of, and there is one
  such report for each batch that failed.
- The points that were lost are those that the report of a loss tells of, and there is one such
  report at most.
- The batches that were taken are those that were sent or have failed, and one more if a batch is
  in flight or was abandoned.
- The bytes that were sent are the lengths of the requests that were acknowledged, one for each
  batch that was sent, for which the same request was made until it was acknowledged.
- A tally counts all reports, each of them under its kind. -/
theorem reports_match_counters {b : SenderBuilder} {s : Sender} (built : b.build = .ok s)
    (ops : List Station.Operation) (handlers : List Handler) :
    let t := s.after ops
    let es := s.history ops
    let rs := reports es
    let sent := acknowledgedSendings (sendings es)
    let tally := Tally.ofReports rs
    inform handlers es = handlers.map (·.after rs) ∧
    (t.stats.dropped = pointsOf (failures es) ∧ t.stats.batchesFailed = (failures es).length) ∧
    (t.stats.lost = pointsOf (losses es) ∧ (losses es).length ≤ 1) ∧
    (t.stats.batchesSent + t.stats.batchesFailed +
      (if t.inFlight ≠ [] ∨ abandonedBatches es ≠ [] then 1 else 0) = (takenBatches es).length) ∧
    (t.stats.bytesSent = (sent.map (·.bytes)).sum ∧ t.stats.batchesSent = sent.length ∧
      ∀ d ∈ sendings es, d.IsSound) ∧
    tally.total = rs.length ∧ tally.total = (ReportKind.all.map tally.count).sum ∧
      ∀ kind, tally.count kind = rs.countP (·.kind = kind) := by
  intro t es rs sent tally
  have accounts : t.ledger.Accounts es := accounts_after built ops
  obtain ⟨dropped_eq, failed_eq, lost_eq⟩ := accounts.told
  have unsettled := accounts.unsettled_eq
  rw [inFlight_ledger] at unsettled
  refine ⟨inform_eq handlers es, ⟨?_, ?_⟩, ⟨?_, accounts.losses_once.length_le⟩, ?_,
    ⟨accounts.carried.bytes_eq, accounts.carried.sent_eq, accounts.carried.sound⟩,
    Tally.total_ofReports rs, Tally.total_eq_sum rs, Tally.count_ofReports rs⟩
  · exact dropped_eq.trans (Nat.zero_add _)
  · exact failed_eq.trans (Nat.zero_add _)
  · exact lost_eq.trans (Nat.zero_add _)
  · rw [← unsettled, accounts.taken_eq]
    simp only [ledger, Nat.add_assoc, t]

/-- Four points are recorded.  The first batch is acknowledged at the second attempt, there is no
token for the second one, and the third one is cut off. -/
def troubledOps : List Station.Operation :=
  let point (i : Int64) : Station.Operation :=
    .record { name := "cpu", kind := .gauge, value := .int i, timestampMs := 1 } false
  [point 1, point 2, point 3, .move (.start (.ok ())), .move .wake, .move .flush,
    .move (.next (.ok "secret")), .move (.hear (.ok ⟨503, []⟩)), .move .resume,
    .move (.hear acknowledged), .move (.next (.error ⟨"expired"⟩)),
    .move (.next (.ok "secret")), point 4, .move .stop, .move .notice,
    .move (.next (.ok "secret")), .move .deadline]

theorem reports_match_counters_troubled :
    ∃ s, sampleBuilder.build = .ok s ∧
      let t := s.after troubledOps
      let es := s.history troubledOps
      let rs : List Report := [.ofToken ⟨"expired"⟩ 1, .ofDeadline 1]
      inform [Tally.handler] es = [Tally.handler.after rs] ∧
      t.stats = { enqueued := 4, sent := 2, dropped := 1, lost := 1, batchesSent := 1,
                  batchesFailed := 1, bytesSent := 44 } ∧
      (takenBatches es).length = 3 ∧ abandonedBatches es ≠ [] ∧
      (acknowledgedSendings (sendings es)).map (·.requests.length) = [2] := by
  obtain ⟨told, -, -, taken_eq, -⟩ :=
    reports_match_counters (b := sampleBuilder) rfl troubledOps [Tally.handler]
  refine ⟨_, rfl, told.trans (congrArg (fun rs => [Tally.handler.after rs]) ?_), by decide,
    taken_eq.symm.trans (by decide), by decide, by decide⟩
  decide

end Sender
end MetricRelay
