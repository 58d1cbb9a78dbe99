import MetricRelay.Proofs.Sender.Run

/-!
# Conservation of points

Every accepted point is sent, dropped or lost, or it is still with the sender: in the buffer or
in the batch in flight (`Sender.Ledger.Balanced`).  So the pending count is what the sender still
holds, and nothing is pending once a call to stop has returned.

A breakdown takes points with it that nobody counts until the sender is stopped.  All other changes
keep the balance.
-/

namespace MetricRelay

namespace Sender
namespace Ledger

/-- What holds of every ledger that a run can reach: a sender without a worker has no batch in
flight, and its buffer is empty and closed unless it was never started. -/
structure Orderly (l : Ledger) : Prop where
  unstarted : l.lifecycle = .idle → l.hasWorker = false
  unmanned : l.hasWorker = false → l.flight = none
  ended : l.lifecycle ≠ .idle → l.hasWorker = false → l.queue = [] ∧ l.isClosed = true

theorem orderly_fresh (u : Setup) : (fresh u).Orderly := ⟨fun _ => rfl, fun _ => rfl, nofun⟩

theorem Orderly.cleared {l : Ledger} (lifecycle : Lifecycle) (lost : Nat) :
    (l.cleared lifecycle lost).Orderly :=
  ⟨fun _ => rfl, fun _ => rfl, fun _ _ => ⟨rfl, rfl⟩⟩

/-- A sender with a worker has nothing to show but that it was started. -/
theorem Orderly.of_manned {l : Ledger} (manned : l.hasWorker = true)
    (started : l.lifecycle ≠ .idle) : l.Orderly where
  unstarted h := absurd h started
  unmanned h := by rw [manned] at h; cases h
  ended _ h := by rw [manned] at h; cases h

theorem Orderly.started {l : Ledger} (h : l.Orderly) (manned : l.hasWorker = true) :
    l.lifecycle ≠ .idle := by
  intro idle
  rw [h.unstarted idle] at manned
  cases manned

/-- Every change keeps a ledger orderly. -/
theorem Step.orderly {l l' : Ledger} {a : Action} {es : List Event} (h : Step l a es l')
    (ho : l.Orderly) : l'.Orderly := by
  cases h with
  | rest => exact ho
  | reject n => exact ⟨ho.unstarted, ho.unmanned, ho.ended⟩
  | accept points inRuntime isOpen =>
    -- what has ended is closed, and a closed buffer accepts nothing
    refine ⟨ho.unstarted, ho.unmanned, fun hl hw => ?_⟩
    have := (ho.ended hl hw).2
    rw [isOpen] at this
    cases this
  | start thread idle => exact .of_manned rfl nofun
  | stop quiet =>
    refine ⟨nofun, ho.unmanned, fun _ unmanned => ho.ended ?_ unmanned⟩
    rcases quiet with manned | broken
    · exact ho.started manned
    · rw [broken]
      nofun
  | close manned => exact .of_manned manned (ho.started manned)
  | dispatch a batch rest request manned => exact .of_manned manned (ho.started manned)
  | refuse a batch rest report manned => exact .of_manned manned (ho.started manned)
  | retry f outcome wait manned => exact .of_manned manned (ho.started manned)
  | resume f wait manned => exact .of_manned manned (ho.started manned)
  | acknowledge f bytes manned => exact .of_manned manned (ho.started manned)
  | drop f outcome report manned => exact .of_manned manned (ho.started manned)
  | discard => exact .cleared _ _
  | collapse => exact .cleared _ _
  | writeOff running unmanned =>
    exact ⟨nofun, ho.unmanned, fun _ => ho.ended (by rw [running]; exact nofun)⟩

/-- Every accepted point is in one of the counts, in the queue or in flight. -/
def Balanced (l : Ledger) : Prop :=
  l.stats.enqueued =
    l.stats.sent + l.stats.dropped + l.stats.lost + l.queue.length + l.inFlight.length

theorem Balanced.pending_eq {l : Ledger} (h : l.Balanced) :
    l.stats.pending = l.queue.length + l.inFlight.length := by
  unfold Balanced at h
  unfold Stats.pending
  omega

theorem inFlight_of_flight {l : Ledger} {f : Flight} (h : l.flight = some f) :
    l.inFlight = f.batch := by
  simp only [inFlight, h]

theorem inFlight_of_free {l : Ledger} (h : l.flight = none) : l.inFlight = [] := by
  simp only [inFlight, h]

/-- Every change but a breakdown keeps the balance. -/
theorem Step.balanced {l l' : Ledger} {a : Action} {es : List Event} (h : Step l a es l')
    (calm : a ≠ .move .breakdown) (ho : l.Orderly) (hb : l.Balanced) : l'.Balanced := by
  have hp := hb.pending_eq
  unfold Balanced at hb
  cases h with
  | rest => exact hb
  | reject n => exact hb
  | accept points inRuntime isOpen =>
    simp only [Balanced, Stats.accept, inFlight, List.length_append] at hb ⊢
    omega
  | start thread idle =>
    rw [inFlight_of_free (ho.unmanned (ho.unstarted idle))] at hb
    exact hb
  | stop quiet => exact hb
  | close manned => exact hb
  | dispatch a batch rest request manned free front =>
    -- the batch leaves the queue and is in flight
    rw [inFlight_of_free free, front, List.length_append, List.length_nil] at hb
    simp only [Balanced, inFlight]
    omega
  | refuse a batch rest report manned free front =>
    -- the batch leaves the queue and is counted as dropped
    rw [inFlight_of_free free, front, List.length_append, List.length_nil] at hb
    simp only [Balanced, Stats.drop, inFlight, free, List.length_nil]
    omega
  | retry f outcome wait manned flying =>
    rw [inFlight_of_flight flying] at hb
    exact hb
  | resume f wait manned flying =>
    rw [inFlight_of_flight flying] at hb
    exact hb
  | acknowledge f bytes manned flying =>
    rw [inFlight_of_flight flying] at hb
    simp only [Balanced, Stats.send, inFlight, List.length_nil]
    omega
  | drop f outcome report manned flying =>
    rw [inFlight_of_flight flying] at hb
    simp only [Balanced, Stats.drop, inFlight, List.length_nil]
    omega
  | discard =>
    simp only [Balanced, cleared, Stats.lose, inFlight, List.length_nil] at hb ⊢
    omega
  | collapse a lifecycle lost cause =>
    cases cause with
    | worker => exact absurd rfl calm
    | call => exact absurd rfl calm
    | thread thread idle =>
      -- all that is pending is lost
      simp only [Balanced, cleared, Stats.lose, hp, inFlight, List.length_nil] at hb ⊢
      omega
  | writeOff running unmanned =>
    -- nothing is pending: only a breakdown leaves something to write off
    have hq := (ho.ended (by rw [running]; exact nofun) unmanned).1
    have hf := inFlight_of_free (ho.unmanned unmanned)
    rw [hq, hf] at hp
    simp only [Balanced, Stats.lose, hp]
    exact hb

end Ledger

/-- Nothing is left with a sender that has stopped. -/
theorem HasStopped.pending_eq_zero {s : Sender} (h : s.HasStopped) (ho : s.ledger.Orderly)
    (hb : s.ledger.Balanced) : s.stats.pending = 0 := by
  have unmanned : s.ledger.hasWorker = false := by simp [ledger, h.2]
  have hq := (ho.ended (by simp [ledger, h.1]) unmanned).1
  have hf := Ledger.inFlight_of_free (ho.unmanned unmanned)
  have hp := hb.pending_eq
  rw [hq, hf] at hp
  exact hp

/-- The balance of a sender, in terms of the sender itself. -/
theorem accepted_of_balanced {s : Sender} (hb : s.ledger.Balanced) :
    s.stats.enqueued =
      s.stats.sent + s.stats.dropped + s.stats.lost + s.buffer.length + s.inFlight.length := by
  rw [← inFlight_ledger]
  exact hb

/-! ### A call to stop returns -/

theorem Ledger.Step.stopped {l l' : Ledger} {a : Action} {es : List Event} (h : Step l a es l')
    (hl : l.lifecycle = .stopped) : l'.lifecycle = .stopped := by
  cases h with
  | start thread idle => rw [hl] at idle; cases idle
  | stop => rfl
  | collapse a lifecycle lost cause =>
    cases cause with
    | worker => exact hl
    | call idle => rw [hl] at idle; cases idle
    | thread => rfl
  | writeOff => rfl
  | discard a lifecycle stops => exact stops.elim (·.trans hl) id
  | _ => exact hl

theorem lifecycle_stop (s : Sender) : s.stop.1.lifecycle = .stopped := by
  rcases s with ⟨_, _, _ | _ | _ | _, _ | _, _⟩ <;> rfl

theorem hasStopped_deadline {s : Sender} (h : s.lifecycle = .stopped) :
    s.deadline.1.HasStopped := by
  rcases s with ⟨_, _, _ | _ | _ | _, _ | _, _⟩ <;> first | exact ⟨rfl, rfl⟩ | cases h

/-- Whatever happens after a call to stop, it has returned when its time is up. -/
theorem hasStopped_after (s : Sender) (before later : List Station.Operation) :
    (s.after (before ++ .move .stop :: later ++ [.move .deadline])).HasStopped := by
  let t := (Station.run { sender := s } before).1.perform (.move .stop)
  -- no operation takes a sender out of its stopped state
  have stopped : (t.station.run later).1.sender.lifecycle = .stopped := by
    obtain ⟨actions, hs, -, -⟩ := Station.exists_run t.station later
    rw [hs]
    exact run_induction (P := fun l _ => l.lifecycle = .stopped) (A := fun _ => True)
      (fun h _ hs => hs.stopped h) t.station.sender [] (lifecycle_stop _) actions
      fun _ _ => trivial
  have := hasStopped_deadline stopped
  simpa [after, Station.run_append, Station.run, t, Station.perform, Station.move, move] using this

/-- **Points are conserved.**  After any operations on a sender that was built, as long as nothing
breaks down, every accepted point is sent, dropped, lost, buffered or in flight,
and what is pending is what is buffered or in flight.  Nothing is pending once a call to stop
has returned, which it has when its time is up, whatever happens meanwhile. -/
theorem enqueued_eq {b : SenderBuilder} {s : Sender} (built : b.build = .ok s)
    (ops : List Station.Operation) (calm : .move .breakdown ∉ ops) :
    let t := s.after ops
    t.stats.enqueued =
      t.stats.sent + t.stats.dropped + t.stats.lost + t.buffer.length + t.inFlight.length ∧
    t.stats.pending = t.buffer.length + t.inFlight.length ∧
    (t.HasStopped → t.stats.pending = 0 ∧
      t.stats.enqueued = t.stats.sent + t.stats.dropped + t.stats.lost) ∧
    ∀ later, (s.after (ops ++ .move .stop :: later ++ [.move .deadline])).HasStopped := by
  intro t
  obtain ⟨orderly, balanced⟩ : t.ledger.Orderly ∧ t.ledger.Balanced :=
    after_induction (P := fun l _ => l.Orderly ∧ l.Balanced) built ops
      ⟨Ledger.orderly_fresh s.setup, rfl⟩ fun ⟨ho, hb⟩ hc hs =>
        ⟨hs.orderly ho, hs.balanced (fun h => calm (hc h)) ho hb⟩
  have hp : t.stats.pending = t.buffer.length + t.inFlight.length := by
    rw [← inFlight_ledger]
    exact balanced.pending_eq
  have he := accepted_of_balanced balanced
  refine ⟨he, hp, fun h => ?_, fun later => hasStopped_after s ops later⟩
  have h0 := h.pending_eq_zero orderly balanced
  exact ⟨h0, by omega⟩

theorem enqueued_eq_sample :
    ∃ s, sampleBuilder.build = .ok s ∧ .move .breakdown ∉ sampleOps ∧
      (s.after sampleOps).stats =
        { enqueued := 3, sent := 2, lost := 1, batchesSent := 1, bytesSent := 44 } ∧
      (s.after sampleOps).HasStopped ∧ (s.after sampleOps).stats.pending = 0 := by
  refine ⟨_, rfl, by simp [sampleOps], by decide, ?_, ?_⟩
  · exact hasStopped_after _ (sampleOps.take 8) [.move (.next (.ok "secret"))]
  · exact ((enqueued_eq (b := sampleBuilder) rfl sampleOps (by simp [sampleOps])).2.2.1
      (hasStopped_after _ (sampleOps.take 8) [.move (.next (.ok "secret"))])).1

end Sender
end MetricRelay
