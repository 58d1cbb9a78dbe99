import MetricRelay.Proofs.Sender.Progress

/-!
# Stopping

A call to stop refuses further points at once, and leaves the rest to the worker until the time
is up.  A worker ends of its own accord only when nothing is left, so until then no points are
lost (`Sender.loses_run`); and it does end, unless a delivery holds it up.  When the time is up, all
points that are left are lost together, and one report says how many
(`Sender.loses_discardUnsent`).

After that the sender is inert: whatever is done to it, nothing comes of it but that it refuses
points and counts them (`Sender.HasStopped.run_eq`).

Nothing here says how long a step takes.  The deadline is a move that may come at any time, and a
worker is in time if its deliveries are resolved before it.
-/

namespace MetricRelay
namespace Sender

/-! ### A sender that has stopped -/

/-- The sender after it has refused more points. -/
def refusing (s : Sender) (points : Nat) : Sender := { s with stats := s.stats.reject points }

theorem HasStopped.refusing {s : Sender} (h : s.HasStopped) (n : Nat) :
    (s.refusing n).HasStopped := h

theorem refusing_refusing (s : Sender) (m n : Nat) :
    (s.refusing m).refusing n = s.refusing (m + n) := by
  simp only [Sender.refusing, Stats.reject, Nat.add_assoc]

theorem HasStopped.submit_eq {s : Sender} (h : s.HasStopped) (points : List Point)
    (inRuntime : Bool) : s.submit points inRuntime = (s.refusing points.length, []) := by
  unfold submit
  split
  · rename_i hp
    rw [List.isEmpty_iff.1 hp]
    rfl
  · rw [if_pos h.1]
    rfl

theorem HasStopped.move_eq {s : Sender} (h : s.HasStopped) (m : Move) : s.move m = (s, []) := by
  rcases s with ⟨u, b, lifecycle, worker, t⟩
  obtain ⟨rfl, rfl⟩ := h
  cases m <;> rfl

/-- A sender that has stopped does nothing but count the points that it refuses. -/
theorem HasStopped.step_eq {s : Sender} (h : s.HasStopped) (a : Action) :
    ∃ n, s.step a = (s.refusing n, []) := by
  cases a with
  | submit points inRuntime => exact ⟨_, h.submit_eq points inRuntime⟩
  | move m => exact ⟨0, h.move_eq m⟩

theorem HasStopped.run_eq {s : Sender} (h : s.HasStopped) (actions : List Action) :
    ∃ n, s.run actions = (s.refusing n, []) := by
  induction actions generalizing s with
  | nil => exact ⟨0, rfl⟩
  | cons a rest ih =>
    obtain ⟨m, hm⟩ := h.step_eq a
    obtain ⟨n, hn⟩ := ih (h.refusing m)
    refine ⟨m + n, ?_⟩
    simp only [run, hm, hn, refusing_refusing, List.append_nil]

/-! ### Losses -/

/-- The report of points that were left when a sender stopped. -/
def Event.loss? : Event → Option Report
  | .reported r => if r.kind = .shutdownDataLoss then some r else none
  | _ => none

/-- The reports of points that were left when a sender stopped. -/
def lossReports (es : List Event) : List Report := es.filterMap Event.loss?

theorem lossReports_append (es es' : List Event) :
    lossReports (es ++ es') = lossReports es ++ lossReports es' :=
  List.filterMap_append

theorem lossReports_lossEvents (n : Nat) :
    lossReports (lossEvents n .ofDeadline) = if n = 0 then [] else [.ofDeadline n] := by
  unfold lossEvents
  split <;> rfl

/-- A number of points is lost on the way from a sender to an outcome, which is reported once,
and not at all if there are none.  No points are accepted. -/
structure Loses (s : Sender) (n : Nat) (r : Sender × List Event) : Prop where
  accepted_eq : r.1.stats.enqueued = s.stats.enqueued
  lost_eq : r.1.stats.lost = s.stats.lost + n
  reports_eq : lossReports r.2 = if n = 0 then [] else [.ofDeadline n]

theorem Loses.before {s : Sender} {n : Nat} {r r' : Sender × List Event} (h : s.Loses n r)
    (h' : r.1.Loses 0 r') : s.Loses n (r'.1, r.2 ++ r'.2) where
  accepted_eq := h'.accepted_eq.trans h.accepted_eq
  lost_eq := by rw [h'.lost_eq, h.lost_eq]; rfl
  reports_eq := by rw [lossReports_append, h.reports_eq, h'.reports_eq]; simp

theorem Loses.after {s : Sender} {n : Nat} {r r' : Sender × List Event} (h : s.Loses 0 r)
    (h' : r.1.Loses n r') : s.Loses n (r'.1, r.2 ++ r'.2) where
  accepted_eq := h'.accepted_eq.trans h.accepted_eq
  lost_eq := by rw [h'.lost_eq, h.lost_eq]; rfl
  reports_eq := by rw [lossReports_append, h.reports_eq, h'.reports_eq]; simp

theorem loses_rest (s : Sender) : s.Loses 0 (s, []) := ⟨rfl, rfl, rfl⟩

/-- What is given up as a whole is in flight or buffered. -/
theorem loses_discardUnsent (s : Sender) :
    s.Loses (s.inFlight.length + s.buffer.length) s.discardUnsent where
  accepted_eq := rfl
  lost_eq := rfl
  reports_eq := by
    have quiet : lossReports s.farewell = [] := by
      unfold farewell
      split <;> split <;> rfl
    simp only [discardUnsent, Buffer.closeAndDiscard, lossReports_append, quiet,
      lossReports_lossEvents, List.nil_append]

theorem loses_send (s : Sender) (w : Worker) (batch : List Point)
    (token : Except NoToken String) : s.Loses 0 (s.send w batch token) := by
  unfold send
  split
  · exact ⟨rfl, rfl, rfl⟩
  · dsimp only
    split
    · exact ⟨rfl, rfl, rfl⟩
    · split <;> exact ⟨rfl, rfl, rfl⟩

theorem loses_take (s : Sender) (b : Buffer) (w : Worker) (batch : List Point)
    (token : Except NoToken String) :
    let sent := { s with buffer := b }.send w batch token
    s.Loses 0 (sent.1, .taken batch :: sent.2) := by
  obtain ⟨accepted_eq, lost_eq, reports_eq⟩ := loses_send { s with buffer := b } w batch token
  exact ⟨accepted_eq, lost_eq, reports_eq⟩

/-- A worker that drains ends only when nothing is left. -/
theorem loses_next {s : Sender} (sized : 0 < s.setup.maxBatchSize)
    (token : Except NoToken String) : s.Loses 0 (s.next token) := by
  unfold next
  split
  · dsimp only
    split
    · exact ⟨rfl, rfl, rfl⟩
    · exact s.loses_take _ _ _ token
  · rename_i hw
    dsimp only
    split
    · rename_i none_taken
      have front : s.buffer.contents.take s.setup.maxBatchSize = [] := by
        rw [← Buffer.contents_peek, ← Buffer.drainUpTo_fst]
        exact List.isEmpty_iff.1 none_taken
      have empty : s.buffer.contents = [] :=
        (List.take_eq_nil_iff.1 front).resolve_left (Nat.ne_of_gt sized)
      have left : s.inFlight.length + s.buffer.length = 0 := by
        simp [inFlight, hw, Worker.inFlight, Buffer.length, empty]
      have := s.loses_discardUnsent
      rwa [left] at this
    · exact s.loses_take _ _ _ token
  · exact ⟨rfl, rfl, rfl⟩

/-- A stopped sender loses no points until its time is up, unless the worker breaks down. -/
theorem loses_step {s : Sender} (ending : s.IsEnding) {a : Action}
    (calm : a ≠ .move .breakdown) (early : a ≠ .move .deadline) : s.Loses 0 (s.step a) := by
  have stopped := ending.stopped
  cases a with
  | submit points inRuntime =>
    simp only [step, submit, stopped, if_true]
    split <;> exact ⟨rfl, rfl, rfl⟩
  | move m =>
    cases m with
    | start thread =>
      have rest : s.step (.move (.start thread)) = (s, []) :=
        start_of_ne_idle (by simp [stopped]) thread
      exact rest ▸ s.loses_rest
    | stop =>
      have rest : s.step (.move .stop) = (s, []) := by
        simp only [step, move, stop, stopped]
      exact rest ▸ s.loses_rest
    | wake =>
      simp only [step, move, wake]
      split <;> exact ⟨rfl, rfl, rfl⟩
    | flush =>
      simp only [step, move, flush]
      repeat' split
      all_goals exact ⟨rfl, rfl, rfl⟩
    | notice =>
      simp only [step, move, notice]
      split <;> exact ⟨rfl, rfl, rfl⟩
    | next token => exact loses_next ending.sized token
    | hear outcome =>
      -- a batch that is given up is dropped, not lost
      simp only [step, move, hear]
      repeat' split
      all_goals exact ⟨rfl, rfl, rfl⟩
    | resume =>
      simp only [step, move, resume]
      repeat' split
      all_goals exact ⟨rfl, rfl, rfl⟩
    | deadline => exact absurd rfl early
    | breakdown => exact absurd rfl calm

theorem loses_run {s : Sender} (ending : s.IsEnding) (actions : List Action)
    (calm : .move .breakdown ∉ actions) (early : .move .deadline ∉ actions) :
    s.Loses 0 (s.run actions) := by
  induction actions generalizing s with
  | nil => exact s.loses_rest
  | cons a rest ih =>
    rw [List.mem_cons, not_or] at calm early
    have first := loses_step ending (Ne.symm calm.1) (Ne.symm early.1)
    exact first.before (ih (ending.step a) calm.2 early.2)

/-! ### The call as a whole -/

/-- A sender that was never started loses what is buffered; any other one leaves its points to
the worker. -/
theorem loses_stop {s : Sender} (ho : s.ledger.Orderly) (hb : s.ledger.Balanced) :
    s.Loses (if s.lifecycle = .idle then s.buffer.length else 0) s.stop := by
  rcases s with ⟨u, b, lifecycle, worker, t⟩
  cases lifecycle with
  | idle =>
    obtain rfl : worker = none := by simpa [ledger] using ho.unstarted rfl
    obtain ⟨-, lost_eq, reports_eq⟩ := loses_discardUnsent ⟨u, b, .stopped, none, t⟩
    rw [show inFlight ⟨u, b, .stopped, none, t⟩ = [] from rfl, List.length_nil,
      Nat.zero_add] at lost_eq reports_eq
    exact ⟨rfl, lost_eq, reports_eq⟩
  | running =>
    cases worker with
    | none =>
      -- nothing is pending: only a breakdown leaves something that nobody has counted
      have queue := (ho.ended (by simp [ledger]) rfl).1
      have pending : t.pending = 0 := by
        have := hb.pending_eq
        rwa [queue, Ledger.inFlight_of_free (ho.unmanned rfl)] at this
      have call : stop ⟨u, b, .running, none, t⟩ = (⟨u, b, .stopped, none, t.lose 0⟩, []) := by
        simp [stop, reportUnsent, lossEvents, pending]
      rw [call]
      exact ⟨rfl, rfl, rfl⟩
    | some w => exact ⟨rfl, rfl, rfl⟩
  | broken => exact ⟨rfl, rfl, rfl⟩
  | stopped => exact ⟨rfl, rfl, rfl⟩

theorem HasStopped.closed {s : Sender} (h : s.HasStopped) (ho : s.ledger.Orderly) :
    s.buffer.contents = [] ∧ s.buffer.isClosed = true :=
  ho.ended (by simp [ledger, h.1]) (by simp [ledger, h.2])

theorem HasStopped.left_eq_zero {s : Sender} (h : s.HasStopped) (ho : s.ledger.Orderly) :
    s.inFlight.length + s.buffer.length = 0 := by
  simp [inFlight, h.2, Buffer.length, (h.closed ho).1]

/-- When the time is up, all that is left is lost. -/
theorem loses_deadline {s : Sender} (stopped : s.lifecycle = .stopped) (ho : s.ledger.Orderly) :
    s.Loses (s.inFlight.length + s.buffer.length) s.deadline := by
  by_cases ended : s.worker = none
  · have done : s.HasStopped := ⟨stopped, ended⟩
    rw [done.left_eq_zero ho, show s.deadline = (s, []) from done.move_eq .deadline]
    exact s.loses_rest
  · obtain ⟨w, hw⟩ := Option.ne_none_iff_exists'.1 ended
    have cut : s.deadline = s.discardUnsent := by simp only [deadline, hw, stopped]
    rw [cut]
    exact s.loses_discardUnsent

theorem hasStopped_stop {s : Sender} (idle : s.lifecycle = .idle) : s.stop.1.HasStopped := by
  rcases s with ⟨_, _, _ | _ | _ | _, _, _⟩ <;> first | exact ⟨rfl, rfl⟩ | cases idle

theorem orderly_run {s : Sender} (ho : s.ledger.Orderly) (actions : List Action) :
    (s.run actions).1.ledger.Orderly :=
  run_induction (P := fun l _ => l.Orderly) (A := fun _ => True)
    (fun h _ hs => hs.orderly h) s [] ho actions fun _ _ => trivial

/-- A sender whose batches can hold a point comes to its end once it is stopped. -/
theorem isEnding_stop {s : Sender} (sized : 0 < s.setup.maxBatchSize) : s.stop.1.IsEnding := by
  have setup_eq : s.stop.1.setup = s.setup := s.step_stop.setup_eq
  exact ⟨s.lifecycle_stop, setup_eq ▸ sized⟩

/-- A call to stop loses what it gives up at once or, if there is a worker, what the worker has
left when the time is up. -/
theorem loses_stopping {s : Sender} (ho : s.ledger.Orderly) (hb : s.ledger.Balanced)
    (sized : 0 < s.setup.maxBatchSize) (actions : List Action)
    (calm : .move .breakdown ∉ actions) (early : .move .deadline ∉ actions) :
    let wait := s.stop.1.run actions
    let v := wait.1
    s.Loses
      (if s.lifecycle = .idle then s.buffer.length else v.inFlight.length + v.buffer.length)
      (v.deadline.1, s.stop.2 ++ wait.2 ++ v.deadline.2) := by
  intro wait v
  have ending := isEnding_stop sized
  have orderly : v.ledger.Orderly := orderly_run (s.step_stop.orderly ho) actions
  have call := loses_stop ho hb
  have waiting : s.stop.1.Loses 0 wait := loses_run ending actions calm early
  have cut := loses_deadline (ending.run actions).stopped orderly
  by_cases idle : s.lifecycle = .idle
  · -- all is lost with the call, and nothing is left for later
    rw [if_pos idle] at call ⊢
    have ended : v.HasStopped := by
      obtain ⟨n, hn⟩ := (hasStopped_stop idle).run_eq actions
      rw [show v = s.stop.1.refusing n from congrArg Prod.fst hn]
      exact (hasStopped_stop idle).refusing n
    rw [ended.left_eq_zero orderly] at cut
    exact (call.before waiting).before cut
  · rw [if_neg idle] at call ⊢
    exact (call.before waiting).after cut

end Sender

namespace Station

/-! ### Requests to a stopped station -/

theorem run_of_hasStopped (st : Station) (h : st.sender.HasStopped) (ops : List Operation) :
    ∃ n, (st.run ops).1.sender = st.sender.refusing n ∧ (st.run ops).2 = [] := by
  obtain ⟨actions, hs, he, -⟩ := st.exists_run ops
  obtain ⟨n, hn⟩ := h.run_eq actions
  rw [hs, he, hn]
  exact ⟨n, rfl, rfl⟩

/-- Whatever is asked of a station is refused because its sender is stopped. -/
structure RefusesAll (st : Station) : Prop where
  start (thread : Except String Unit) :
    (st.perform (.move (.start thread))).answer = some (.error .stopped)
  submission (points : List Point) (inRuntime : Bool) : points ≠ [] →
    st.sender.submission points inRuntime = some (.error .stopped)
  record (draft : Point.Draft) (inRuntime : Bool) (p : Point) : st.pointOf draft = .ok p →
    (st.perform (.record draft inRuntime)).answer = some (.error .stopped)
  closeSession (name : String) (now : Int64) (inRuntime : Bool) (points : List Point) :
    ((st.session name).close now).2 = .ok points → points ≠ [] →
    (st.perform (.closeSession name now inRuntime)).answer = some (.error .stopped)

theorem refusesAll_of_stopped {st : Station} (stopped : st.sender.lifecycle = .stopped) :
    st.RefusesAll := by
  have refused (points : List Point) (inRuntime : Bool) (nonempty : points ≠ []) :
      st.sender.submission points inRuntime = some (.error .stopped) := by
    unfold Sender.submission
    rw [if_neg (by simpa using nonempty), if_pos stopped]
  refine ⟨?_, refused, ?_, ?_⟩
  · intro thread
    simp only [perform, move, Sender.startable, stopped]
  · intro draft inRuntime p hp
    simp only [perform, record, hp]
    exact refused [p] inRuntime (by simp)
  · intro name now inRuntime points hc nonempty
    rw [perform, closeSession]
    dsimp only
    rw [hc]
    exact refused points inRuntime nonempty

end Station

namespace Sender

/-! ### Stopping -/

/-- A batch can hold a point. -/
theorem maxBatchSize_pos {b : SenderBuilder} {s : Sender} (built : b.build = .ok s)
    (ops : List Station.Operation) : 0 < (s.after ops).setup.maxBatchSize := by
  have sized : 0 < s.setup.maxBatchSize := by
    obtain ⟨tokens, valid, -, -, -, rfl⟩ := SenderBuilder.build_eq_ok_iff.1 built
    exact valid.batched
  have setup_eq : (s.after ops).setup = s.setup :=
    after_induction (P := fun l _ => l.setup = s.setup) built ops rfl
      fun h _ hs => hs.setup_eq.trans h
  rwa [setup_eq]

theorem conserved_after {b : SenderBuilder} {s : Sender} (built : b.build = .ok s)
    (ops : List Station.Operation) (calm : .move .breakdown ∉ ops) :
    (s.after ops).ledger.Orderly ∧ (s.after ops).ledger.Balanced :=
  after_induction (P := fun l _ => l.Orderly ∧ l.Balanced) built ops
    ⟨Ledger.orderly_fresh s.setup, rfl⟩
    fun ⟨ho, hb⟩ hc hs => ⟨hs.orderly ho, hs.balanced (fun h => calm (hc h)) ho hb⟩

/-- Without new points and losses, what was left has been sent or dropped when nothing is left. -/
theorem resolved_of_balanced {s u : Sender} (hs : s.ledger.Balanced) (hu : u.ledger.Balanced)
    (accepted_eq : u.stats.enqueued = s.stats.enqueued) (lost_eq : u.stats.lost = s.stats.lost)
    (none_left : u.inFlight.length + u.buffer.length = 0) :
    u.stats.sent + u.stats.dropped =
      s.stats.sent + s.stats.dropped + (s.buffer.length + s.inFlight.length) := by
  have before := accepted_of_balanced hs
  have after := accepted_of_balanced hu
  omega

/-- What a call to stop comes to by the time that it is up is a run of the sender. -/
theorem exists_stopping (s : Sender) (ops during : List Station.Operation) :
    ∃ actions, (∀ m, .move m ∈ actions → .move m ∈ during) ∧
      let call := (s.after ops).stop
      let wait := call.1.run actions
      s.after (ops ++ .move .stop :: during) = wait.1 ∧
      s.after (ops ++ .move .stop :: during ++ [.move .deadline]) = wait.1.deadline.1 ∧
      s.history (ops ++ .move .stop :: during ++ [.move .deadline]) =
        s.history ops ++ (call.2 ++ wait.2 ++ wait.1.deadline.2) := by
  let called := ((Station.run { sender := s } ops).1.perform (.move .stop)).station
  obtain ⟨actions, hs, he, moves⟩ := called.exists_run during
  have stop_eq : called.sender = (s.after ops).stop.1 := rfl
  rw [stop_eq] at hs he
  refine ⟨actions, moves, ?_, ?_, ?_⟩
  · rw [← hs]
    simp [after, Station.run_append, Station.run, called]
  · rw [← hs]
    simp [after, Station.run_append, Station.run, Station.perform, Station.move, move, called]
  · rw [← hs, ← he]
    simp [after, history, Station.run_append, Station.run, Station.perform, Station.move, move,
      called]

/-- The worker of a sender that is being stopped goes on by itself so often only. -/
theorem strides_stopping_le (s : Sender) {ops : List Station.Operation}
    (sized : 0 < (s.after ops).setup.maxBatchSize) (during : List Station.Operation) :
    (Station.run { sender := s } (ops ++ [.move .stop])).1.strides during ≤
      3 * ((s.after ops).buffer.length + 1) := by
  let st := (Station.run { sender := s } (ops ++ [.move .stop])).1
  have called : st.sender = (s.after ops).stop.1 := by
    simp only [st, Station.run_append]
    rfl
  have ending : st.sender.IsEnding := called ▸ isEnding_stop sized
  have room := Station.strides_le ending during
  have near := (s.after ops).distance_stop_le
  rw [← called] at near
  exact Nat.le_trans (Nat.le_of_add_right_le room) near

/-- **Stopping is final, exhaustive and idempotent.**  A sender that was built is stopped after any
operations on it, other operations go on meanwhile, and then the time for stopping is up.

- The call has returned by then: the worker has ended, and the buffer is closed and empty.
- A sender that was never started loses what was buffered when the call was made.  Any other one
  loses what is in flight or buffered when the time is up.  One report gives the number of points
  lost, and there is none if no points are.  A call while another one waits adds nothing to this.
- Nothing but a delivery holds up the worker.  It goes on by itself a limited number of times only,
  and with all deliveries resolved it has ended before the time is up.  Then the deadline changes
  nothing, and if the sender was started, no points are lost: all that was left has been sent or
  dropped.
- Whatever is done later, nothing is requested or reported any more, the sender does nothing but
  count refused points, and every request to start and every offer of points is refused. -/
theorem stop_final {b : SenderBuilder} {s : Sender} (built : b.build = .ok s)
    (ops during : List Station.Operation) (calm : .move .breakdown ∉ ops ++ during)
    (early : .move .deadline ∉ during) :
    let waiting := ops ++ .move .stop :: during
    let returned := waiting ++ [.move .deadline]
    let t := s.after ops
    let v := s.after waiting
    let u := s.after returned
    let lost :=
      if t.lifecycle = .idle then t.buffer.length else v.inFlight.length + v.buffer.length
    (u.HasStopped ∧ u.buffer.isClosed = true ∧ u.buffer.contents = []) ∧
    (u.stats.lost = t.stats.lost + lost ∧
      lossReports (s.history returned) =
        lossReports (s.history ops) ++ if lost = 0 then [] else [.ofDeadline lost]) ∧
    ((Station.run { sender := s } (ops ++ [.move .stop])).1.strides during ≤
        3 * (t.buffer.length + 1) ∧
      (v.IsResolved ↔ v.HasStopped) ∧
      (v.IsResolved → u = v ∧ (t.lifecycle ≠ .idle → lost = 0 ∧
        u.stats.sent + u.stats.dropped =
          t.stats.sent + t.stats.dropped + (t.buffer.length + t.inFlight.length)))) ∧
    ∀ later,
      let st := (Station.run { sender := s } (returned ++ later)).1
      s.history (returned ++ later) = s.history returned ∧
      (∃ n, st.sender = u.refusing n) ∧ st.RefusesAll := by
  intro waiting returned t v u lost
  rw [List.mem_append, not_or] at calm
  obtain ⟨actions, moves, hv, hu, hh⟩ := s.exists_stopping ops during
  obtain ⟨orderly, balanced⟩ := conserved_after built ops calm.1
  obtain ⟨hov, hbv⟩ := conserved_after built waiting (by simp [waiting, calm])
  have sized := maxBatchSize_pos built ops
  have call := loses_stopping orderly balanced sized actions
    (fun h => calm.2 (moves _ h)) fun h => early (moves _ h)
  have ending : v.IsEnding := by
    rw [show v = _ from hv]
    exact (isEnding_stop sized).run actions
  dsimp only at call
  rw [← hv] at call hu hh
  rw [← hu] at call
  have hou : u.ledger.Orderly := by
    rw [show u = _ from hu]
    exact (step_deadline _).orderly hov
  have ended : u.HasStopped := hasStopped_after s ops during
  obtain ⟨empty, closed⟩ := ended.closed hou
  refine ⟨⟨ended, closed, empty⟩, ⟨call.lost_eq, ?_⟩,
    ⟨?_, isResolved_iff ending, fun resolved => ?_⟩, fun later => ?_⟩
  · rw [hh, lossReports_append, call.reports_eq]
  · exact s.strides_stopping_le sized during
  · have early_end := (isResolved_iff ending).1 resolved
    have none_left := early_end.left_eq_zero hov
    have same : u = v := hu.trans (congrArg Prod.fst (early_end.move_eq .deadline))
    refine ⟨same, fun started => ?_⟩
    have no_loss : lost = 0 := (if_neg started).trans none_left
    refine ⟨no_loss, resolved_of_balanced balanced ?_ call.accepted_eq ?_ ?_⟩
    · exact same ▸ hbv
    · exact call.lost_eq.trans (congrArg (t.stats.lost + ·) no_loss)
    · exact same ▸ none_left
  · let st := (Station.run { sender := s } returned).1
    obtain ⟨n, hn, quiet⟩ := st.run_of_hasStopped ended later
    have run_eq := Station.run_append { sender := s } returned later
    refine ⟨?_, ⟨n, ?_⟩, Station.refusesAll_of_stopped ?_⟩
    · rw [history, run_eq, quiet, List.append_nil]
      rfl
    · rw [run_eq]
      exact hn
    · rw [run_eq, hn]
      exact ended.1

/-- The first batch is acknowledged, the flush goes on to the second one and to its end, the worker
hears of the stop, and nothing is left to drain. -/
def sampleDrain : List Station.Operation :=
  [.move (.hear acknowledged), .move (.next (.ok "secret")), .move (.hear acknowledged),
    .move (.next (.ok "secret")), .move .notice, .move (.next (.ok "secret"))]

/-- The sample is stopped while its first batch is in flight.  If the time is up during the second
batch, the point in there is lost; with enough time, none is. -/
theorem stop_final_sample :
    let before := sampleOps.take 8
    let during := [Station.Operation.move (.next (.ok "secret"))]
    let drained := sampleOps.take 7 ++ .move .stop :: sampleDrain
    sampleOps = before ++ .move .stop :: during ++ [.move .deadline] ∧
    ∃ s, sampleBuilder.build = .ok s ∧
      (.move .breakdown ∉ before ++ during ∧ .move .deadline ∉ during ∧
        (s.after before).lifecycle = .running ∧
        (s.after sampleOps).stats.lost = 1 ∧
        lossReports (s.history sampleOps) = [.ofDeadline 1] ∧
        ∀ later, (Station.run { sender := s } (sampleOps ++ later)).1.RefusesAll) ∧
      .move .breakdown ∉ sampleOps.take 7 ++ sampleDrain ∧ .move .deadline ∉ sampleDrain ∧
        (s.after (sampleOps.take 7)).inFlight.length = 2 ∧ (s.after drained).IsResolved ∧
        (s.after (drained ++ [.move .deadline])).stats.sent = 3 ∧
        (s.after (drained ++ [.move .deadline])).stats.lost = 0 ∧
        lossReports (s.history (drained ++ [.move .deadline])) = [] := by
  intro before during drained
  have calm : .move .breakdown ∉ before ++ during := by simp [before, during, sampleOps]
  have early : .move .deadline ∉ during := by simp [during]
  obtain ⟨-, ⟨lost_eq, reports_eq⟩, -, final⟩ :=
    stop_final (b := sampleBuilder) rfl before during calm early
  have calm' : .move .breakdown ∉ sampleOps.take 7 ++ sampleDrain := by
    simp [sampleOps, sampleDrain]
  have early' : .move .deadline ∉ sampleDrain := by simp [sampleDrain]
  obtain ⟨-, ⟨lost_eq', reports_eq'⟩, ⟨-, resolved_iff, resolves⟩, -⟩ :=
    stop_final (b := sampleBuilder) rfl (sampleOps.take 7) sampleDrain calm' early'
  have resolved := resolved_iff.2 ⟨by decide, by decide⟩
  obtain ⟨-, resolves⟩ := resolves resolved
  obtain ⟨no_loss, -⟩ := resolves (by decide)
  rw [no_loss] at lost_eq' reports_eq'
  refine ⟨rfl, _, rfl, ⟨calm, early, by decide, ?_, ?_, fun later => (final later).2.2⟩,
    calm', early', by decide, resolved, by decide, ?_, ?_⟩
  · exact lost_eq.trans (by decide)
  · exact reports_eq.trans (by decide)
  · exact lost_eq'.trans (by decide)
  · exact reports_eq'.trans (by decide)

end Sender
end MetricRelay
