import MetricRelay.Sender.Station

/-!
# What steps do to points

A `Sender.Ledger` is what a sender knows of its points: those that wait in the buffer, the batch
in flight, and the counters.  `Sender.Ledger.Step` lists everything that can happen to a ledger,
each change with the events that show it, and `Sender.step_ledger` says that every step of a
sender is one of these.  So a property of all runs is proved of the changes in the list, and no
other proof has to open a step.

A batch is taken off the front of the queue, and it is in flight until it is settled; whatever
else a step does to points, it gives all of them up.
-/

namespace MetricRelay
namespace Sender

/-- A call to stop has returned: the sender is stopped, and its worker has ended. -/
def HasStopped (s : Sender) : Prop := s.lifecycle = .stopped ∧ s.worker = none

/-- What a sender knows of its points. -/
structure Ledger where
  setup : Setup
  lifecycle : Lifecycle
  hasWorker : Bool
  /-- The buffered points in the order in which they leave. -/
  queue : List Point
  isClosed : Bool
  flight : Option Flight
  stats : Stats

/-- The ledger of a sender. -/
def ledger (s : Sender) : Ledger where
  setup := s.setup
  lifecycle := s.lifecycle
  hasWorker := s.worker.isSome
  queue := s.buffer.contents
  isClosed := s.buffer.isClosed
  flight := s.worker.bind (·.flight)
  stats := s.stats

namespace Ledger

/-- The points of the batch in flight. -/
def inFlight (l : Ledger) : List Point :=
  match l.flight with
  | none => []
  | some f => f.batch

/-- The events of giving up all points. -/
def farewell (l : Ledger) : List Event :=
  (if l.inFlight.isEmpty then [] else [.settled l.inFlight .abandoned]) ++
    (if l.queue.isEmpty then [] else [.discarded l.queue])

/-- The ledger after all points were given up and some of them counted as lost. -/
def cleared (l : Ledger) (lifecycle : Lifecycle) (lost : Nat) : Ledger :=
  { l with
    lifecycle, hasWorker := false, queue := [], isClosed := true, flight := none
    stats := l.stats.lose lost }

/-- A report gives a batch up: it tells the number of points, and it blames the encoder only if
that has refused the batch. -/
structure GivesUp (u : Setup) (batch : List Point) (report : Report) : Prop where
  points_eq : report.points = batch.length
  kind_ne : report.kind ≠ .shutdownDataLoss
  refused : report.kind = .encode → ∃ e, u.encoder.encode batch = .error e

/-- How a worker goes down with all points, with the lifecycle after it and the count of the points
that are reported. -/
inductive Collapses (l : Ledger) : Action → Lifecycle → Nat → Prop
  /-- It breaks down.  That is counted only if the sender is stopped. -/
  | worker (lost : Nat) (manned : l.hasWorker = true)
    (counted : lost = 0 ∨ l.lifecycle = .stopped) :
    Collapses l (.move .breakdown) l.lifecycle lost
  /-- The call that should make it breaks down. -/
  | call (idle : l.lifecycle = .idle) : Collapses l (.move .breakdown) .broken 0
  /-- There is no thread for it. -/
  | thread (thread : Except String Unit) (idle : l.lifecycle = .idle) :
    Collapses l (.move (.start thread)) .stopped l.stats.pending

/-- The changes of a ledger, with the events that show them. -/
inductive Step : Ledger → Action → List Event → Ledger → Prop
  | rest (l : Ledger) (a : Action) : Step l a [] l
  | reject (l : Ledger) (a : Action) (n : Nat) :
    Step l a [] { l with stats := l.stats.reject n }
  | accept (l : Ledger) (points : List Point) (inRuntime : Bool) (isOpen : l.isClosed = false) :
    Step l (.submit points inRuntime) [.accepted points]
      { l with queue := l.queue ++ points, stats := l.stats.accept points.length }
  | start (l : Ledger) (thread : Except String Unit) (idle : l.lifecycle = .idle) :
    Step l (.move (.start thread)) []
      { l with lifecycle := .running, hasWorker := true, flight := none }
  | stop (l : Ledger) (quiet : l.hasWorker = true ∨ l.lifecycle = .broken) :
    Step l (.move .stop) [] { l with lifecycle := .stopped }
  | close (l : Ledger) (manned : l.hasWorker = true) :
    Step l (.move .notice) [] { l with isClosed := true }
  /-- A batch leaves the queue for its first request. -/
  | dispatch (l : Ledger) (a : Action) (batch rest : List Point) (request : Request)
    (manned : l.hasWorker = true) (free : l.flight = none) (front : l.queue = batch ++ rest)
    (nonempty : batch ≠ []) (bounded : batch.length ≤ l.setup.maxBatchSize) :
    Step l a [.taken batch, .requested request]
      { l with queue := rest, flight := some { batch, request } }
  /-- A batch leaves the queue and cannot be sent. -/
  | refuse (l : Ledger) (a : Action) (batch rest : List Point) (report : Report)
    (manned : l.hasWorker = true) (free : l.flight = none) (front : l.queue = batch ++ rest)
    (nonempty : batch ≠ []) (bounded : batch.length ≤ l.setup.maxBatchSize)
    (told : GivesUp l.setup batch report) :
    Step l a [.taken batch, .settled batch .dropped, .reported report]
      { l with queue := rest, stats := l.stats.drop batch.length }
  | retry (l : Ledger) (f : Flight) (outcome : Outcome) (wait : Duration)
    (manned : l.hasWorker = true) (flying : l.flight = some f) (awaited : f.wait = none)
    (retried : l.setup.client.policy.shouldRetry outcome f.attempt = true) :
    Step l (.move (.hear outcome)) [.answered outcome]
      { l with flight := some { f with wait := some wait } }
  | resume (l : Ledger) (f : Flight) (wait : Duration)
    (manned : l.hasWorker = true) (flying : l.flight = some f) (waiting : f.wait = some wait) :
    Step l (.move .resume) [.requested f.request]
      { l with flight := some { f with attempt := f.attempt + 1, wait := none } }
  | acknowledge (l : Ledger) (f : Flight) (bytes : Nat)
    (manned : l.hasWorker = true) (flying : l.flight = some f) (awaited : f.wait = none)
    (final : l.setup.client.policy.shouldRetry acknowledged f.attempt = false)
    (sized : bytes = f.request.body.length) :
    Step l (.move (.hear acknowledged))
      [.answered acknowledged, .settled f.batch (.acknowledged f.request)]
      { l with flight := none, stats := l.stats.send f.batch.length bytes }
  | drop (l : Ledger) (f : Flight) (outcome : Outcome) (report : Report)
    (manned : l.hasWorker = true) (flying : l.flight = some f) (awaited : f.wait = none)
    (refused : outcome ≠ acknowledged) (told : GivesUp l.setup f.batch report) :
    Step l (.move (.hear outcome))
      [.answered outcome, .settled f.batch .dropped, .reported report]
      { l with flight := none, stats := l.stats.drop f.batch.length }
  /-- The worker's part ends, and what is left is counted as lost.  Unless the sender is stopped,
  there is no batch that is left. -/
  | discard (l : Ledger) (a : Action) (lifecycle : Lifecycle)
    (stops : lifecycle = l.lifecycle ∨ lifecycle = .stopped)
    (finished : lifecycle = .stopped ∨
      l.flight = none ∧ l.queue.take l.setup.maxBatchSize = []) :
    Step l a (l.farewell ++ lossEvents (l.inFlight.length + l.queue.length) .ofDeadline)
      (l.cleared lifecycle (l.inFlight.length + l.queue.length))
  /-- There is no worker any more, or there will be none, and what is left is gone. -/
  | collapse (l : Ledger) (a : Action) (lifecycle : Lifecycle) (lost : Nat)
    (cause : Collapses l a lifecycle lost) :
    Step l a (l.farewell ++ lossEvents lost .ofBreakdown) (l.cleared lifecycle lost)
  /-- The call to stop counts the loss of a worker that has broken down. -/
  | writeOff (l : Ledger) (running : l.lifecycle = .running) (unmanned : l.hasWorker = false) :
    Step l (.move .stop) (lossEvents l.stats.pending .ofBreakdown)
      { l with lifecycle := .stopped, stats := l.stats.lose l.stats.pending }

section Collapses

variable {l : Ledger} {a : Action} {lifecycle : Lifecycle} {lost : Nat}

/-- Without a worker, there was none yet. -/
theorem Collapses.manned_or_idle (h : Collapses l a lifecycle lost) :
    l.hasWorker = true ∨ l.lifecycle = .idle := by
  cases h with
  | worker lost manned => exact .inl manned
  | call idle => exact .inr idle
  | thread thread idle => exact .inr idle

theorem Collapses.started (h : Collapses l a lifecycle lost) (started : l.lifecycle ≠ .idle) :
    lifecycle ≠ .idle := by
  cases h with
  | worker => exact started
  | call => nofun
  | thread => nofun

/-- What is counted is counted as lost by a sender that is stopped. -/
theorem Collapses.counted (h : Collapses l a lifecycle lost) :
    lost = 0 ∨ lifecycle = .stopped := by
  cases h with
  | worker lost manned counted => exact counted
  | call => exact .inl rfl
  | thread => exact .inr rfl

end Collapses

theorem Step.setup_eq {l l' : Ledger} {a : Action} {es : List Event} (h : Step l a es l') :
    l'.setup = l.setup := by
  cases h <;> rfl

end Ledger

/-! ### Every step is a change of the ledger -/

theorem send_cases (s : Sender) (w : Worker) (batch : List Point)
    (token : Except NoToken String) :
    (∃ report, Ledger.GivesUp s.setup batch report ∧ s.send w batch token =
      ({ s with worker := some w, stats := s.stats.drop batch.length },
        [.settled batch .dropped, .reported report])) ∨
    ∃ request, s.send w batch token =
      ({ s with worker := some { w with flight := some { batch, request } } },
        [.requested request]) := by
  unfold send
  split
  · rename_i e
    exact .inl ⟨.ofToken e batch.length, ⟨rfl, nofun, nofun⟩, rfl⟩
  · dsimp only
    split
    · rename_i e he
      exact .inl ⟨.ofEncode e batch.length, ⟨rfl, nofun, fun _ => ⟨e, he⟩⟩, rfl⟩
    · split
      · rename_i e _
        exact .inl ⟨.ofDelivery e batch.length, ⟨rfl, nofun, nofun⟩, rfl⟩
      · exact .inr ⟨_, rfl⟩

theorem inFlight_ledger (s : Sender) : s.ledger.inFlight = s.inFlight := by
  rcases s with ⟨_, _, _, _ | ⟨_, _ | _⟩, _⟩ <;> rfl

theorem farewell_ledger (s : Sender) : s.ledger.farewell = s.farewell := by
  have hq : s.ledger.queue.isEmpty = s.buffer.isEmpty := by
    rw [Bool.eq_iff_iff]
    simp [ledger, Buffer.isEmpty, Buffer.length]
  unfold Ledger.farewell farewell
  rw [hq, inFlight_ledger]
  rfl

theorem step_submit (s : Sender) (points : List Point) (inRuntime : Bool) :
    Ledger.Step s.ledger (.submit points inRuntime) (s.submit points inRuntime).2
      (s.submit points inRuntime).1.ledger := by
  unfold submit
  split
  · exact .rest _ _
  · rename_i hp
    split
    · exact .reject _ _ _
    · split
      · rename_i b hb
        obtain ⟨wasOpen, isOpen⟩ := Buffer.isClosed_of_enqueueAll hb (by simpa using hp)
        have := Ledger.Step.accept s.ledger points inRuntime wasOpen
        simpa [ledger, Buffer.contents_of_enqueueAll hb, wasOpen, isOpen] using this
      · exact .reject _ _ _
      · exact .rest _ _

theorem step_discardUnsent (s : Sender) (a : Action) {lifecycle : Lifecycle}
    (h : lifecycle = s.lifecycle ∨ lifecycle = .stopped)
    (finished : lifecycle = .stopped ∨
      s.ledger.flight = none ∧ s.ledger.queue.take s.setup.maxBatchSize = []) :
    Ledger.Step s.ledger a ({ s with lifecycle }.discardUnsent).2
      ({ s with lifecycle }.discardUnsent).1.ledger := by
  have := Ledger.Step.discard s.ledger a lifecycle h finished
  rw [farewell_ledger, inFlight_ledger] at this
  exact this

/-- Only a sender that was never started can be. -/
theorem start_of_ne_idle {s : Sender} (h : s.lifecycle ≠ .idle) (thread : Except String Unit) :
    s.start thread = (s, []) := by
  simp [start, h]

theorem step_start (s : Sender) (thread : Except String Unit) :
    Ledger.Step s.ledger (.move (.start thread)) (s.start thread).2 (s.start thread).1.ledger := by
  unfold start
  split
  · rename_i startable
    rw [Bool.and_eq_true, decide_eq_true_eq] at startable
    cases thread with
    | ok _ => exact .start s.ledger _ startable.1
    | error reason =>
      have := Ledger.Step.collapse s.ledger _ _ _ (.thread (.error reason) startable.1)
      rw [farewell_ledger] at this
      exact this
  · exact .rest _ _

theorem step_stop (s : Sender) :
    Ledger.Step s.ledger (.move .stop) s.stop.2 s.stop.1.ledger := by
  rcases s with ⟨u, b, _ | _ | _ | _, _ | w, t⟩
  · exact step_discardUnsent ⟨u, b, .idle, none, t⟩ _ (.inr rfl) (.inl rfl)
  · exact step_discardUnsent ⟨u, b, .idle, some w, t⟩ _ (.inr rfl) (.inl rfl)
  · exact .writeOff (ledger ⟨u, b, .running, none, t⟩) rfl rfl
  · exact .stop (ledger ⟨u, b, .running, some w, t⟩) (.inl rfl)
  · exact .stop (ledger ⟨u, b, .broken, none, t⟩) (.inr rfl)
  · exact .stop (ledger ⟨u, b, .broken, some w, t⟩) (.inr rfl)
  · exact .rest _ _
  · exact .rest _ _

theorem step_wake (s : Sender) :
    Ledger.Step s.ledger (.move .wake) s.wake.2 s.wake.1.ledger := by
  unfold wake
  split
  · -- a point that the worker has looked at is still the first one in the queue
    have h : ({ s with buffer := s.buffer.peek.2 } : Sender).ledger = s.ledger := by
      simp only [ledger, Buffer.contents_peek, Buffer.isClosed_peek]
    rw [h]
    exact .rest _ _
  · exact .rest _ _

theorem step_flush (s : Sender) :
    Ledger.Step s.ledger (.move .flush) s.flush.2 s.flush.1.ledger := by
  unfold flush
  split
  · rename_i hw
    split
    · -- a ledger does not tell what the worker is at
      have h (w : Worker) (hf : w.flight = none) : (s.withWorker w).ledger = s.ledger := by
        simp only [ledger, withWorker, hw, hf, Option.isSome_some, Option.bind_some]
      rw [h _ rfl]
      exact .rest _ _
    · exact .rest _ _
  · exact .rest _ _

theorem step_notice (s : Sender) :
    Ledger.Step s.ledger (.move .notice) s.notice.2 s.notice.1.ledger := by
  unfold notice
  split
  · rename_i hw hl
    have := Ledger.Step.close s.ledger (by simp [ledger, hw])
    simpa [ledger, hw, Buffer.close, Buffer.contents] using this
  · exact .rest _ _

/-- A worker without a batch takes the next one off the queue. -/
theorem step_take (s : Sender) (w w' : Worker) (b : Buffer) (batch : List Point)
    (token : Except NoToken String) (a : Action) (hw : s.worker = some w) (hf : w.flight = none)
    (hf' : w'.flight = none)
    (front : s.buffer.contents = batch ++ b.contents) (hb : b.isClosed = s.buffer.isClosed)
    (nonempty : batch ≠ []) (bounded : batch.length ≤ s.setup.maxBatchSize) :
    Ledger.Step s.ledger a
      (.taken batch :: ({ s with buffer := b }.send w' batch token).2)
      ({ s with buffer := b }.send w' batch token).1.ledger := by
  have manned : s.ledger.hasWorker = true := by simp [ledger, hw]
  have free : s.ledger.flight = none := by simp [ledger, hw, hf]
  rcases send_cases { s with buffer := b } w' batch token with ⟨report, told, h⟩ | ⟨request, h⟩
  · rw [h]
    have := Ledger.Step.refuse s.ledger a batch b.contents report manned free front
      nonempty bounded told
    simpa [ledger, hw, hf, hf', hb] using this
  · rw [h]
    have := Ledger.Step.dispatch s.ledger a batch b.contents request manned free front
      nonempty bounded
    simpa [ledger, hw, hf, hb] using this

theorem step_next (s : Sender) (token : Except NoToken String) :
    Ledger.Step s.ledger (.move (.next token)) (s.next token).2 (s.next token).1.ledger := by
  unfold next
  split
  · rename_i remaining hw
    dsimp only
    split
    · have h : (s.withWorker { phase := .waiting }).ledger = s.ledger := by
        simp only [ledger, withWorker, hw, Option.isSome_some, Option.bind_some]
      rw [h]
      exact .rest _ _
    · rename_i hb
      refine step_take s _ _ _ _ token _ hw rfl rfl (Buffer.contents_eq_append _ _)
        (Buffer.isClosed_drainUpTo _ _) (by simpa using hb) ?_
      exact Nat.le_trans (Buffer.length_drainUpTo_le _ _) (Nat.min_le_left _ _)
  · rename_i hw
    dsimp only
    split
    · rename_i hb
      have left : s.ledger.queue.take s.setup.maxBatchSize = [] := by
        rwa [List.isEmpty_iff, Buffer.drainUpTo_fst, Buffer.contents_peek] at hb
      exact step_discardUnsent s _ (.inl rfl) (.inr ⟨by simp [ledger, hw], left⟩)
    · rename_i hb
      -- what is drained is what the worker has just looked at
      refine step_take s _ _ _ _ token _ hw rfl rfl ?_ ?_ (by simpa using hb)
        (Buffer.length_drainUpTo_le _ _)
      · rw [← Buffer.contents_peek]
        exact Buffer.contents_eq_append _ _
      · rw [Buffer.isClosed_drainUpTo, Buffer.isClosed_peek]
  · exact .rest _ _

theorem step_deadline (s : Sender) :
    Ledger.Step s.ledger (.move .deadline) s.deadline.2 s.deadline.1.ledger := by
  unfold deadline
  split
  · rename_i stopped
    exact step_discardUnsent s _ (.inl rfl) (.inl stopped)
  · exact .rest _ _

theorem step_breakdown (s : Sender) :
    Ledger.Step s.ledger (.move .breakdown) s.breakdown.2 s.breakdown.1.ledger := by
  have manned {w : Worker} (hw : s.worker = some w) : s.ledger.hasWorker = true := by
    simp [ledger, hw]
  -- as long as nobody has called to stop, nobody counts the loss
  have uncounted {lifecycle : Lifecycle}
      (cause : s.ledger.Collapses (.move .breakdown) lifecycle 0) :
      Ledger.Step s.ledger (.move .breakdown) s.farewell (s.ledger.cleared lifecycle 0) := by
    have := Ledger.Step.collapse s.ledger _ _ _ cause
    rwa [farewell_ledger, show lossEvents 0 .ofBreakdown = [] from rfl, List.append_nil] at this
  unfold breakdown
  split
  · rename_i w hw stopped
    have := Ledger.Step.collapse s.ledger _ _ _
      (.worker s.stats.pending (manned hw) (.inr stopped))
    rwa [farewell_ledger] at this
  · rename_i w hw _
    exact uncounted (.worker 0 (manned hw) (.inl rfl))
  · rename_i idle
    split
    · exact .rest _ _
    · exact uncounted (.call idle)
  · exact .rest _ _

theorem step_resume (s : Sender) :
    Ledger.Step s.ledger (.move .resume) s.resume.2 s.resume.1.ledger := by
  unfold resume
  split
  · rename_i phase batch request attempt wait hw
    split
    · have := Ledger.Step.resume s.ledger
        { batch, request, attempt, wait := some wait } wait (by simp [ledger, hw])
        (by simp [ledger, hw]) rfl
      simpa [ledger, withWorker, hw] using this
    · exact .rest _ _
  · exact .rest _ _

theorem step_hear (s : Sender) (outcome : Outcome) :
    Ledger.Step s.ledger (.move (.hear outcome)) (s.hear outcome).2
      (s.hear outcome).1.ledger := by
  unfold hear
  split
  · rename_i phase batch request attempt hw
    have manned : s.ledger.hasWorker = true := by simp [ledger, hw]
    have flying : s.ledger.flight = some { batch, request, attempt, wait := none } := by
      simp [ledger, hw]
    cases hr : s.setup.client.policy.shouldRetry outcome attempt
    · by_cases ho : outcome = acknowledged
      · subst ho
        have := Ledger.Step.acknowledge s.ledger _ request.body.length manned flying rfl hr rfl
        simpa [ledger, hw, Client.judge, hr, Client.conclude_acknowledged] using this
      · obtain ⟨e, he⟩ := Client.conclude_of_ne_acknowledged ho attempt request.body.length
        have := Ledger.Step.drop s.ledger _ outcome (.ofDelivery e batch.length) manned flying
          rfl ho ⟨rfl, nofun, nofun⟩
        simpa [ledger, hw, Client.judge, hr, he, fail, withWorker] using this
    · have := Ledger.Step.retry s.ledger _ outcome (s.setup.client.policy.wait attempt) manned
        flying rfl hr
      simpa [ledger, hw, Client.judge, hr, withWorker] using this
  · exact .rest _ _

/-- **Every step of a sender is a change of its ledger.** -/
theorem step_ledger (s : Sender) (a : Action) :
    Ledger.Step s.ledger a (s.step a).2 (s.step a).1.ledger := by
  cases a with
  | submit points inRuntime => exact step_submit s points inRuntime
  | move m =>
    cases m with
    | start thread => exact step_start s thread
    | stop => exact step_stop s
    | wake => exact step_wake s
    | flush => exact step_flush s
    | notice => exact step_notice s
    | next token => exact step_next s token
    | hear outcome => exact step_hear s outcome
    | resume => exact step_resume s
    | deadline => exact step_deadline s
    | breakdown => exact step_breakdown s

end Sender
end MetricRelay
