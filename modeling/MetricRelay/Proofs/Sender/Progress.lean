import MetricRelay.Proofs.Sender.Conservation

/-!
# A stopped worker comes to its end

Nothing but a delivery can hold up the worker of a stopped sender.  Without a batch in flight it
can always go on (`Sender.exists_goesOn`): it sends what remains of a flush, hears of the stop,
closes the buffer and sends what is left in there.  And it cannot go on forever, because each of
these steps brings it nearer to its end (`Sender.distance_move`), so that a run has room for so many
of them only (`Station.strides_le`).  A worker with all its deliveries resolved has therefore ended
(`Sender.isResolved_iff`).
-/

namespace MetricRelay
namespace Sender

variable {s : Sender}

/-- A sender that is stopped, with batches that can hold a point. -/
structure IsEnding (s : Sender) : Prop where
  stopped : s.lifecycle = .stopped
  sized : 0 < s.setup.maxBatchSize

/-! ### Steps that need no answer -/

/-- The moves that a worker makes by itself, when it is there and has no batch in flight. -/
def Move.IsOwn (m : Move) : Prop := m = .flush ∨ m = .notice ∨ ∃ token, m = .next token

/-- The worker goes on by itself with this move. -/
def goesOn (s : Sender) : Move → Bool
  | .flush => s.worker = some {} && s.buffer.peeked.isSome
  | .notice => s.worker = some {} && s.lifecycle = .stopped
  | .next _ => s.worker.any fun w => w.phase != .waiting && w.flight.isNone
  | _ => false

theorem isOwn_of_goesOn {m : Move} (h : s.goesOn m = true) : m.IsOwn := by
  cases m with
  | flush => exact .inl rfl
  | notice => exact .inr (.inl rfl)
  | next token => exact .inr (.inr ⟨token, rfl⟩)
  | _ => cases h

/-- A worker without a batch in flight can go on once the sender is stopped. -/
theorem exists_goesOn (h : s.IsEnding) {w : Worker} (manned : s.worker = some w)
    (free : w.flight = none) : ∃ m, s.goesOn m = true := by
  rcases w with ⟨phase, flight⟩
  obtain rfl : flight = none := free
  cases phase with
  | waiting => exact ⟨.notice, by simp [goesOn, manned, h.stopped]⟩
  | flushing remaining => exact ⟨.next (.ok ""), by simp [goesOn, manned]⟩
  | draining => exact ⟨.next (.ok ""), by simp [goesOn, manned]⟩

/-! ### The distance from the end -/

/-- How many steps a worker has before it at most, with so many points in the buffer.  A flush that
has points to take is nearer to the end than the wait before it, and than the wait after it would be
if the points were still there. -/
def Phase.distance (buffered : Nat) : Phase → Nat
  | .waiting => 3 * buffered + 2
  | .flushing remaining => 3 * buffered + if min remaining buffered = 0 then 3 else 1
  | .draining => 3 * buffered + 1

/-- How far the worker of a stopped sender is from its end. -/
def distance (s : Sender) : Nat := s.worker.elim 0 fun w => w.phase.distance s.buffer.length

theorem distance_of_manned {w : Worker} (manned : s.worker = some w) :
    s.distance = w.phase.distance s.buffer.length := by
  rw [distance, manned, Option.elim_some]

theorem distance_of_ended (ended : s.worker = none) : s.distance = 0 := by
  rw [distance, ended, Option.elim_none]

/-- The phase and the number of points are all that counts. -/
theorem distance_congr {s' : Sender} (phase_eq : s'.worker.map (·.phase) = s.worker.map (·.phase))
    (length_eq : s'.buffer.length = s.buffer.length) : s'.distance = s.distance := by
  rcases hw : s.worker with _ | w <;> rcases hw' : s'.worker with _ | w' <;>
    simp only [hw, hw', Option.map_none, Option.map_some, reduceCtorEq, Option.some.injEq]
      at phase_eq
  · rw [distance_of_ended hw, distance_of_ended hw']
  · rw [distance_of_manned hw, distance_of_manned hw', phase_eq, length_eq]

theorem Phase.distance_le (buffered : Nat) (phase : Phase) :
    phase.distance buffered ≤ 3 * (buffered + 1) := by
  cases phase <;> simp only [Phase.distance]
  · omega
  · split <;> omega
  · omega

theorem distance_le (s : Sender) : s.distance ≤ 3 * (s.buffer.length + 1) := by
  rcases hw : s.worker with _ | w
  · rw [distance_of_ended hw]
    exact Nat.zero_le _
  · rw [distance_of_manned hw]
    exact w.phase.distance_le _

/-- A call to stop puts nothing into the buffer, so its worker has no more before it than any. -/
theorem distance_stop_le (s : Sender) : s.stop.1.distance ≤ 3 * (s.buffer.length + 1) := by
  have ended {r : Sender} (h : r.worker = none) : r.distance ≤ 3 * (s.buffer.length + 1) := by
    rw [distance_of_ended h]
    exact Nat.zero_le _
  unfold stop
  split
  · exact ended rfl
  · rename_i unmanned
    exact ended unmanned
  · exact distance_le { s with lifecycle := .stopped }
  · exact distance_le { s with lifecycle := .stopped }
  · exact s.distance_le

/-- A worker that takes on a batch is in the phase that it is given. -/
theorem distance_send (s : Sender) (w : Worker) (batch : List Point)
    (token : Except NoToken String) :
    (s.send w batch token).1.distance = w.phase.distance s.buffer.length := by
  rcases s.send_cases w batch token with ⟨report, -, sent⟩ | ⟨request, sent⟩
  · rw [sent, distance_of_manned rfl]
  · rw [sent, distance_of_manned (w := { w with flight := some { batch, request } }) rfl]

/-- The turn of a flush takes a batch, or it ends the flush. -/
theorem distance_next_of_flushing {remaining : Nat} (sized : 0 < s.setup.maxBatchSize)
    (manned : s.worker = some { phase := .flushing remaining }) (token : Except NoToken String) :
    (s.next token).1.distance < s.distance := by
  rw [distance_of_manned manned]
  have split_eq := s.buffer.length_drainUpTo (min s.setup.maxBatchSize remaining)
  have front := s.buffer.drainUpTo_fst (min s.setup.maxBatchSize remaining)
  simp only [next, manned]
  split
  · rename_i none_taken
    rw [List.isEmpty_iff] at none_taken
    have nothing : min remaining s.buffer.length = 0 := by
      have := congrArg List.length (front.symm.trans none_taken)
      rw [List.length_take, List.length_nil] at this
      simp only [Buffer.length]
      omega
    rw [distance_of_manned (w := { phase := .waiting }) rfl]
    simp only [Phase.distance, withWorker, if_pos nothing]
    omega
  · rename_i some_taken
    have taken_pos := List.length_pos_iff.2 fun nil => some_taken (List.isEmpty_iff.2 nil)
    have within : ¬min remaining s.buffer.length = 0 := by
      have := s.buffer.length_drainUpTo_le (min s.setup.maxBatchSize remaining)
      omega
    rw [distance_send]
    simp only [Phase.distance, if_neg within]
    split <;> omega

/-- The turn of a drain takes a batch, or it ends the worker. -/
theorem distance_next_of_draining (manned : s.worker = some { phase := .draining })
    (token : Except NoToken String) : (s.next token).1.distance < s.distance := by
  rw [distance_of_manned manned]
  have split_eq := s.buffer.peek.2.length_drainUpTo s.setup.maxBatchSize
  rw [Buffer.length_peek] at split_eq
  simp only [next, manned]
  split
  · rw [distance_of_ended rfl]
    exact Nat.succ_pos _
  · rename_i some_taken
    have taken_pos := List.length_pos_iff.2 fun nil => some_taken (List.isEmpty_iff.2 nil)
    rw [distance_send]
    simp only [Phase.distance]
    omega

/-- Each step that the worker takes by itself brings it nearer to its end. -/
theorem distance_lt_of_goesOn (h : s.IsEnding) {m : Move} (goes : s.goesOn m = true) :
    (s.move m).1.distance < s.distance := by
  cases m with
  | flush =>
    obtain ⟨manned, peeked⟩ : s.worker = some {} ∧ s.buffer.peeked.isSome = true := by
      simpa [goesOn] using goes
    obtain ⟨p, hp⟩ := Option.isSome_iff_exists.1 peeked
    have some_points : 0 < s.buffer.length := by simp [Buffer.length, Buffer.contents, hp]
    simp only [move, flush, manned, peeked, if_true]
    rw [distance_of_manned manned, distance_of_manned (w := { phase := .flushing _ }) rfl]
    simp only [Phase.distance, withWorker, Nat.min_self, if_neg (Nat.ne_of_gt some_points)]
    omega
  | notice =>
    obtain ⟨manned, stopped⟩ : s.worker = some {} ∧ s.lifecycle = .stopped := by
      simpa [goesOn] using goes
    simp only [move, notice, manned, stopped]
    rw [distance_of_manned manned, distance_of_manned (w := { phase := .draining }) rfl]
    exact Nat.lt_succ_self _
  | next token =>
    obtain ⟨⟨phase, flight⟩, manned, sends, free⟩ :
        ∃ w, s.worker = some w ∧ w.phase ≠ .waiting ∧ w.flight = none := by
      simpa [goesOn, Option.any_eq_true] using goes
    obtain rfl : flight = none := free
    cases phase with
    | waiting => exact absurd rfl sends
    | flushing remaining => exact distance_next_of_flushing h.sized manned token
    | draining => exact distance_next_of_draining manned token
  | _ => cases goes

/-- No other move takes the worker of a stopped sender away from its end. -/
theorem distance_move_le (h : s.IsEnding) {m : Move} (other : s.goesOn m = false) :
    (s.move m).1.distance ≤ s.distance := by
  have stopped := h.stopped
  have rest {r : Sender × List Event} (h : r = (s, [])) : r.1.distance ≤ s.distance := by
    rw [h]
  cases m with
  | start thread => exact rest (start_of_ne_idle (by simp [stopped]) thread)
  | stop => exact rest (by simp [move, stop, stopped])
  | wake =>
    simp only [move, wake]
    split
    · exact Nat.le_of_eq (distance_congr rfl s.buffer.length_peek)
    · exact Nat.le_refl _
  | flush =>
    simp only [move, flush]
    split
    · rename_i manned
      have unseen : s.buffer.peeked.isSome = false := by simpa [goesOn, manned] using other
      rw [if_neg (by simp [unseen])]
    · exact Nat.le_refl _
  | notice =>
    simp only [move, notice]
    split
    · rename_i manned _
      simp [goesOn, manned, stopped] at other
    · exact Nat.le_refl _
  | next token =>
    simp only [move, next]
    split
    · rename_i manned
      simp [goesOn, manned] at other
    · rename_i manned
      simp [goesOn, manned] at other
    · exact Nat.le_refl _
  | hear outcome =>
    simp only [move, hear]
    split
    · rename_i manned
      -- however the request ended, the worker stays in its phase
      split <;> exact Nat.le_of_eq (distance_congr (by rw [manned]; rfl) rfl)
    · exact Nat.le_refl _
  | resume =>
    simp only [move, resume]
    split
    · rename_i manned
      split
      · exact Nat.le_of_eq (distance_congr (by rw [manned]; rfl) rfl)
      · exact Nat.le_refl _
    · exact Nat.le_refl _
  | deadline =>
    simp only [move, deadline]
    split
    · rw [distance_of_ended rfl]
      exact Nat.zero_le _
    · exact Nat.le_refl _
  | breakdown =>
    simp only [move, breakdown, stopped]
    split
    · rw [distance_of_ended rfl]
      exact Nat.zero_le _
    · rw [distance_of_ended rfl]
      exact Nat.zero_le _
    · rename_i idle
      cases idle
    · exact Nat.le_refl _

/-- **Each step of the worker counts.** -/
theorem distance_move (h : s.IsEnding) (m : Move) :
    (if s.goesOn m then 1 else 0) + (s.move m).1.distance ≤ s.distance := by
  cases goes : s.goesOn m with
  | true =>
    have nearer := distance_lt_of_goesOn h goes
    rw [if_pos rfl]
    omega
  | false => simpa using distance_move_le h goes

theorem IsEnding.step (h : s.IsEnding) (a : Action) : (s.step a).1.IsEnding where
  stopped := (s.step_ledger a).stopped h.stopped
  sized := by
    have setup_eq : (s.step a).1.setup = s.setup := (s.step_ledger a).setup_eq
    exact setup_eq ▸ h.sized

theorem IsEnding.run (h : s.IsEnding) (actions : List Action) : (s.run actions).1.IsEnding := by
  induction actions generalizing s with
  | nil => exact h
  | cons a rest ih => exact ih (h.step a)

theorem distance_step_le (h : s.IsEnding) (a : Action) : (s.step a).1.distance ≤ s.distance := by
  cases a with
  | submit points inRuntime =>
    simp only [Sender.step, submit, h.stopped, if_true]
    split <;> exact Nat.le_refl _
  | move m => exact Nat.le_of_add_left_le (distance_move h m)

theorem distance_run_le (h : s.IsEnding) (actions : List Action) :
    (s.run actions).1.distance ≤ s.distance := by
  induction actions generalizing s with
  | nil => exact Nat.le_refl _
  | cons a rest ih => exact Nat.le_trans (ih (h.step a)) (distance_step_le h a)

/-! ### The end -/

/-- Every delivery that was begun is resolved, and the worker has gone on from there as far as it
can: no move that it makes by itself changes anything. -/
structure IsResolved (s : Sender) : Prop where
  landed : ∀ w, s.worker = some w → w.flight = none
  rested : ∀ m : Move, m.IsOwn → (s.move m).1 = s

/-- **A stopped sender with all deliveries resolved has no worker any more.** -/
theorem isResolved_iff (h : s.IsEnding) : s.IsResolved ↔ s.HasStopped := by
  constructor
  · intro resolved
    refine ⟨h.stopped, ?_⟩
    cases hw : s.worker with
    | none => rfl
    | some w =>
      obtain ⟨m, goes⟩ := exists_goesOn h hw (resolved.landed w hw)
      have nearer := distance_lt_of_goesOn h goes
      rw [resolved.rested m (isOwn_of_goesOn goes)] at nearer
      exact absurd nearer (Nat.lt_irrefl _)
  · rintro ⟨-, ended⟩
    refine ⟨fun w hw => ?_, ?_⟩
    · rw [ended] at hw
      cases hw
    · rintro m (rfl | rfl | ⟨token, rfl⟩)
      · simp only [move, flush, ended]
      · simp only [move, notice, ended]
      · simp only [move, next, ended]

end Sender

namespace Station

open Sender (Action)

/-- The worker goes on by itself with this operation. -/
def goesOn (st : Station) : Operation → Bool
  | .move m => st.sender.goesOn m
  | _ => false

/-- How often the worker goes on by itself in a run. -/
def strides (st : Station) : List Operation → Nat
  | [] => 0
  | op :: rest => (if st.goesOn op then 1 else 0) + (st.perform op).station.strides rest

theorem distance_perform {st : Station} (h : st.sender.IsEnding) (op : Operation) :
    (if st.goesOn op then 1 else 0) + (st.perform op).station.sender.distance ≤
      st.sender.distance := by
  obtain ⟨actions, ⟨sender_eq, -⟩, -⟩ := st.shows_perform op
  have other : (st.perform op).station.sender.distance ≤ st.sender.distance := by
    rw [sender_eq]
    exact Sender.distance_run_le h actions
  cases op with
  | move m => exact Sender.distance_move h m
  | _ => simpa [goesOn] using other

/-- **There is room for so many steps of the worker only.** -/
theorem strides_le {st : Station} (h : st.sender.IsEnding) (ops : List Operation) :
    st.strides ops + (st.run ops).1.sender.distance ≤ st.sender.distance := by
  induction ops generalizing st with
  | nil => exact Nat.le_of_eq (Nat.zero_add _)
  | cons op rest ih =>
    obtain ⟨actions, ⟨sender_eq, -⟩, -⟩ := st.shows_perform op
    have first := distance_perform h op
    have later := ih (sender_eq ▸ h.run actions)
    have run_eq : (st.run (op :: rest)).1 = ((st.perform op).station.run rest).1 := rfl
    rw [strides, run_eq]
    omega

end Station
end MetricRelay
