import MetricRelay.Proofs.Sender.Shutdown
import MetricRelay.Proofs.Sender.Dispatch

/-!
# Flushes and the last drain

A flush sends the points that were buffered when it began, and the drain before the end sends all
that is left.  Both cut their points into `pieces`, of which each but the last is as large as a
batch can be.

A worker that sends one batch turns to the next when it is free again, so the number of turns
(`Sender.turns`) is all that the course of a sweep depends on.  A sweep has sent as many pieces as
there were turns, whatever else has happened (`Sender.Sweeps.run`), and the turn after the last
piece ends it.
-/

namespace MetricRelay

/-! ### Pieces of a list -/

section Pieces

variable {α : Type} {size : Nat} {l : List α}

/-- The piece of a list with a number, if the list is cut into pieces of a size. -/
def piece (size : Nat) (l : List α) (i : Nat) : List α := (l.drop (i * size)).take size

/-- A list, cut into as many pieces as are needed. -/
def pieces (size : Nat) (l : List α) : List (List α) :=
  (List.range ((l.length + size - 1) / size)).map (piece size l)

theorem length_pieces : (pieces size l).length = (l.length + size - 1) / size := by
  simp [pieces]

theorem getElem_pieces {i : Nat} (h : i < (pieces size l).length) :
    (pieces size l)[i] = piece size l i := by
  simp [pieces]

/-- There is a piece with a number if the pieces before it do not make up the list. -/
theorem lt_length_pieces (sized : 0 < size) {i : Nat} :
    i < (pieces size l).length ↔ i * size < l.length := by
  rw [length_pieces, Nat.lt_iff_add_one_le, Nat.le_div_iff_mul_le sized, Nat.succ_mul]
  omega

theorem length_piece (i : Nat) : (piece size l i).length = min size (l.length - i * size) := by
  simp [piece]

theorem take_pieces_succ {i : Nat} (h : i < (pieces size l).length) :
    (pieces size l).take (i + 1) = (pieces size l).take i ++ [piece size l i] := by
  rw [List.take_succ_eq_append_getElem h, getElem_pieces h]

/-- The first pieces are a first part of the list. -/
theorem flatten_take_pieces {i : Nat} (h : i ≤ (pieces size l).length) :
    ((pieces size l).take i).flatten = l.take (i * size) := by
  induction i with
  | zero => simp
  | succ i ih =>
    rw [take_pieces_succ h, List.flatten_append, ih (Nat.le_of_succ_le h), List.flatten_singleton,
      Nat.succ_mul, List.take_add, piece]

/-- There are enough pieces for the list. -/
theorem length_le_of_pieces (sized : 0 < size) : l.length ≤ (pieces size l).length * size :=
  Nat.not_lt.1 fun more => Nat.lt_irrefl _ ((lt_length_pieces sized).2 more)

theorem flatten_pieces (sized : 0 < size) : (pieces size l).flatten = l := by
  have all : ((pieces size l).take (pieces size l).length).flatten =
      l.take ((pieces size l).length * size) := flatten_take_pieces le_rfl
  rwa [List.take_length, List.take_of_length_le (length_le_of_pieces sized)] at all

/-- Each piece but the last one is full. -/
theorem full_of_lt_length_pieces (sized : 0 < size) {i : Nat} (h : i < (pieces size l).length) :
    (pieces size l)[i] ≠ [] ∧ (pieces size l)[i].length ≤ size ∧
      (i + 1 < (pieces size l).length → (pieces size l)[i].length = size) := by
  have some_left := (lt_length_pieces sized).1 h
  rw [getElem_pieces, ← List.length_pos_iff, length_piece]
  refine ⟨by omega, Nat.min_le_left _ _, fun later => ?_⟩
  have := (lt_length_pieces sized).1 later
  rw [Nat.succ_mul] at this
  omega

end Pieces

namespace Sender

/-! ### Turns of the worker -/

/-- The worker is there and has no batch to send. -/
def isFree (s : Sender) : Bool := s.worker.any (·.flight.isNone)

/-- A free worker turns to the next batch. -/
def isTurn (s : Sender) : Action → Bool
  | .move (.next _) => s.isFree
  | _ => false

theorem exists_next_of_isTurn {s : Sender} {a : Action} (h : s.isTurn a = true) :
    ∃ token, a = .move (.next token) := by
  unfold isTurn at h
  split at h
  · exact ⟨_, rfl⟩
  · cases h

/-- How often a free worker turns to the next batch in a run. -/
def turns (s : Sender) : List Action → Nat
  | [] => 0
  | a :: rest => (if s.isTurn a then 1 else 0) + (s.step a).1.turns rest

/-- The worker comes to a phase and has taken batches, and nothing else has left the buffer. -/
structure Proceeds (r : Sender × List Event) (phase : Phase) (batches : List (List Point)) :
    Prop where
  phase_eq : r.1.worker.map (·.phase) = some phase
  taken_eq : takenBatches r.2 = batches
  discarded_eq : discardedPoints r.2 = []

/-- A worker that sends stays at it between its turns, unless it is cut off or breaks down. -/
theorem proceeds_step {s : Sender} {w : Worker} (started : s.lifecycle ≠ .idle)
    (manned : s.worker = some w) (sends : w.phase ≠ .waiting) {a : Action}
    (calm : a ≠ .move .breakdown) (early : a ≠ .move .deadline) (other : s.isTurn a = false) :
    Proceeds (s.step a) w.phase [] := by
  have same : s.worker.map (·.phase) = some w.phase := by
    rw [manned]
    rfl
  -- it hears of a flush or of a stop only when it waits again
  have busy (flight : Option Flight) : s.worker ≠ some { phase := .waiting, flight } := by
    intro waits
    rw [manned] at waits
    cases waits
    exact sends rfl
  cases a with
  | submit points inRuntime =>
    simp only [step, submit]
    repeat' split
    all_goals exact ⟨same, rfl, rfl⟩
  | move m =>
    cases m with
    | start thread =>
      rw [step, move, start_of_ne_idle started]
      exact ⟨same, rfl, rfl⟩
    | stop =>
      simp only [step, move, stop, manned]
      cases hl : s.lifecycle with
      | idle => exact absurd hl started
      | running => exact ⟨rfl, rfl, rfl⟩
      | broken => exact ⟨rfl, rfl, rfl⟩
      | stopped => exact ⟨same, rfl, rfl⟩
    | wake =>
      simp only [step, move, wake]
      split <;> exact ⟨same, rfl, rfl⟩
    | flush =>
      simp only [step, move, flush]
      split
      · exact absurd ‹_› (busy none)
      · exact ⟨same, rfl, rfl⟩
    | notice =>
      simp only [step, move, notice]
      split
      · exact absurd ‹_› (busy none)
      · exact ⟨same, rfl, rfl⟩
    | next token =>
      -- as this is no turn, there is a batch in flight
      have flies (phase : Phase) : s.worker ≠ some { phase, flight := none } := by
        intro free
        simp [isTurn, isFree, free] at other
      simp only [step, move, next]
      split
      · exact absurd ‹_› (flies _)
      · exact absurd ‹_› (flies _)
      · exact ⟨same, rfl, rfl⟩
    | hear outcome =>
      simp only [step, move, hear]
      split
      · rename_i flies
        rw [flies] at same
        split <;> exact ⟨same, rfl, rfl⟩
      · exact ⟨same, rfl, rfl⟩
    | resume =>
      simp only [step, move, resume]
      split
      · rename_i flies
        split
        · rw [flies] at same
          exact ⟨same, rfl, rfl⟩
        · exact ⟨same, rfl, rfl⟩
      · exact ⟨same, rfl, rfl⟩
    | deadline => exact absurd rfl early
    | breakdown => exact absurd rfl calm

/-- A batch is sent, or given up at once. -/
theorem proceeds_take (s : Sender) (b : Buffer) (phase : Phase) (batch : List Point)
    (token : Except NoToken String) :
    let sent := { s with buffer := b }.send { phase } batch token
    Proceeds (sent.1, .taken batch :: sent.2) phase [batch] := by
  rcases send_cases { s with buffer := b } { phase } batch token with
    ⟨report, -, sent⟩ | ⟨request, sent⟩
  · rw [sent]
    exact ⟨rfl, rfl, rfl⟩
  · rw [sent]
    exact ⟨rfl, rfl, rfl⟩

theorem proceeds_flush {s : Sender} {remaining : Nat} {batch : List Point}
    (free : s.worker = some { phase := .flushing remaining })
    (front : s.buffer.contents.take (min s.setup.maxBatchSize remaining) = batch)
    (nonempty : batch ≠ []) (token : Except NoToken String) :
    Proceeds (s.next token) (.flushing (remaining - batch.length)) [batch] := by
  rw [← Buffer.drainUpTo_fst] at front
  simp only [next, free, front]
  rw [if_neg (by simpa using nonempty)]
  exact s.proceeds_take _ _ batch token

theorem proceeds_drain {s : Sender} {batch : List Point}
    (free : s.worker = some { phase := .draining })
    (front : s.buffer.contents.take s.setup.maxBatchSize = batch) (nonempty : batch ≠ [])
    (token : Except NoToken String) : Proceeds (s.next token) .draining [batch] := by
  rw [← Buffer.contents_peek, ← Buffer.drainUpTo_fst] at front
  simp only [next, free, front]
  rw [if_neg (by simpa using nonempty)]
  exact s.proceeds_take _ _ batch token

/-- Nothing comes into a buffer that is closed, and it is not opened again. -/
theorem Ledger.Step.closed {l l' : Ledger} {a : Action} {es : List Event} (h : Step l a es l')
    (closed : l.isClosed = true) : l'.isClosed = true ∧ acceptedPoints es = [] := by
  cases h with
  | accept points inRuntime isOpen =>
    rw [closed] at isOpen
    cases isOpen
  | close => exact ⟨rfl, rfl⟩
  | discard => exact ⟨rfl, by simp⟩
  | collapse => exact ⟨rfl, by simp⟩
  | writeOff => exact ⟨closed, by simp⟩
  | _ => exact ⟨closed, rfl⟩

/-! ### Sweeps -/

/-- What sends everything that is buffered. -/
inductive Sweep where
  /-- It sends what was there when it began. -/
  | flush
  /-- It sends what is left before the end, behind which nothing comes. -/
  | drain

/-- What the worker is at in a sweep after some turns. -/
def Sweep.phase (size : Nat) (points : List Point) (k : Nat) : Sweep → Phase
  | .flush => .flushing (points.length - k * size)
  | .drain => .draining

theorem Sweep.phase_ne (size : Nat) (points : List Point) (k : Nat) (sweep : Sweep) :
    sweep.phase size points k ≠ .waiting := by
  cases sweep <;> exact nofun

/-- The worker sweeps points: it has taken one piece in each turn, and the others are still there,
in front of what has been accepted since. -/
structure Sweeps (u : Setup) (sweep : Sweep) (points : List Point) (k : Nat) (s : Sender)
    (es : List Event) : Prop where
  setup_eq : s.setup = u
  started : s.lifecycle ≠ .idle
  phase_eq : s.worker.map (·.phase) = some (sweep.phase u.maxBatchSize points k)
  bounded : k ≤ (pieces u.maxBatchSize points).length
  taken_eq : takenBatches es = (pieces u.maxBatchSize points).take k
  discarded_eq : discardedPoints es = []
  order : (takenBatches es).flatten ++ s.buffer.contents = points ++ acceptedPoints es
  alone : sweep = .drain → s.buffer.isClosed = true ∧ acceptedPoints es = []

namespace Sweeps

variable {u : Setup} {sweep : Sweep} {points : List Point} {k : Nat} {s : Sender}
  {es : List Event}

theorem contents_eq (h : Sweeps u sweep points k s es) :
    s.buffer.contents = points.drop (k * u.maxBatchSize) ++ acceptedPoints es := by
  have order := h.order
  rw [h.taken_eq, flatten_take_pieces h.bounded] at order
  refine List.append_cancel_left (order.trans ?_)
  rw [← List.append_assoc, List.take_append_drop]

/-- The batch that a turn takes is the next piece. -/
theorem front (h : Sweeps u sweep points k s es) :
    s.buffer.contents.take (match sweep with
      | .flush => min u.maxBatchSize (points.length - k * u.maxBatchSize)
      | .drain => u.maxBatchSize) = piece u.maxBatchSize points k := by
  rw [h.contents_eq]
  cases sweep with
  | flush =>
    -- what has been accepted since is out of reach
    rw [← List.length_drop, List.take_append_of_le_length (Nat.min_le_right _ _), piece,
      ← List.take_eq_take_min]
  | drain => rw [(h.alone rfl).2, List.append_nil, piece]

/-- A step in which the worker takes the pieces between two numbers. -/
theorem step (h : Sweeps u sweep points k s es) {a : Action} {k' : Nat}
    {batches : List (List Point)} (bounded : k' ≤ (pieces u.maxBatchSize points).length)
    (proceeds : Proceeds (s.step a) (sweep.phase u.maxBatchSize points k') batches)
    (taken : (pieces u.maxBatchSize points).take k ++ batches =
      (pieces u.maxBatchSize points).take k') :
    Sweeps u sweep points k' (s.step a).1 (es ++ (s.step a).2) := by
  have manned {t : Sender} {phase : Phase} (at_phase : t.worker.map (·.phase) = some phase) :
      t.ledger.hasWorker = true := by
    obtain ⟨w, hw, -⟩ := Option.map_eq_some_iff.1 at_phase
    simp [ledger, hw]
  have change := s.step_ledger a
  have moved : s.buffer.contents ++ acceptedPoints (s.step a).2 =
      batches.flatten ++ (s.step a).1.buffer.contents := by
    have := change.queue_append
    rwa [proceeds.taken_eq, proceeds.discarded_eq, List.nil_append] at this
  -- a sender that has a worker has been started
  exact {
    setup_eq := change.setup_eq.trans h.setup_eq
    started := (change.orderly (.of_manned (manned h.phase_eq) h.started)).started
      (manned proceeds.phase_eq)
    phase_eq := proceeds.phase_eq
    bounded
    taken_eq := by rw [takenBatches_append, h.taken_eq, proceeds.taken_eq, taken]
    discarded_eq := by
      rw [discardedPoints_append, h.discarded_eq, proceeds.discarded_eq, List.nil_append]
    order := by
      rw [takenBatches_append, acceptedPoints_append, proceeds.taken_eq, List.flatten_append,
        List.append_assoc, ← moved, ← List.append_assoc, h.order, List.append_assoc]
    alone := fun drains => by
      obtain ⟨closed, none_accepted⟩ := h.alone drains
      obtain ⟨closed', none_accepted'⟩ := change.closed closed
      exact ⟨closed', by rw [acceptedPoints_append, none_accepted, none_accepted']; rfl⟩ }

/-- Between turns a sweep does not go on. -/
theorem rest (h : Sweeps u sweep points k s es) {a : Action} (calm : a ≠ .move .breakdown)
    (early : a ≠ .move .deadline) (other : s.isTurn a = false) :
    Sweeps u sweep points k (s.step a).1 (es ++ (s.step a).2) := by
  obtain ⟨w, manned, at_phase⟩ := Option.map_eq_some_iff.1 h.phase_eq
  have sends : w.phase ≠ .waiting := at_phase ▸ Sweep.phase_ne _ _ _ _
  have proceeds := proceeds_step h.started manned sends calm early other
  rw [at_phase] at proceeds
  exact h.step h.bounded proceeds (List.append_nil _)

theorem worker_eq_of_isFree (h : Sweeps u sweep points k s es) (free : s.isFree = true) :
    s.worker = some { phase := sweep.phase u.maxBatchSize points k } := by
  obtain ⟨⟨phase, flight⟩, manned, at_phase⟩ := Option.map_eq_some_iff.1 h.phase_eq
  rw [isFree, manned, Option.any_some, Option.isNone_iff_eq_none] at free
  rw [manned, ← at_phase, show flight = none from free]

/-- In a turn the worker takes the next piece. -/
theorem turn (h : Sweeps u sweep points k s es) (sized : 0 < u.maxBatchSize)
    (free : s.isFree = true) (left : k < (pieces u.maxBatchSize points).length)
    (token : Except NoToken String) :
    Sweeps u sweep points (k + 1) (s.next token).1 (es ++ (s.next token).2) := by
  have size_eq : s.setup.maxBatchSize = u.maxBatchSize := by rw [h.setup_eq]
  have worker_eq := h.worker_eq_of_isFree free
  have front := h.front
  have length_eq : (piece u.maxBatchSize points k).length =
      min u.maxBatchSize (points.length - k * u.maxBatchSize) := length_piece k
  have more := (lt_length_pieces sized).1 left
  have nonempty : piece u.maxBatchSize points k ≠ [] := by
    rw [← List.length_pos_iff, length_eq]
    omega
  have proceeds : Proceeds (s.next token) (sweep.phase u.maxBatchSize points (k + 1))
      [piece u.maxBatchSize points k] := by
    cases sweep with
    | flush =>
      -- the piece is no larger than what remains, so nothing is cut off at zero
      have remaining : points.length - (k + 1) * u.maxBatchSize =
          points.length - k * u.maxBatchSize - (piece u.maxBatchSize points k).length := by
        rw [length_eq, Nat.succ_mul]
        omega
      rw [Sweep.phase, remaining]
      exact proceeds_flush worker_eq (size_eq ▸ front) nonempty token
    | drain => exact proceeds_drain worker_eq (size_eq ▸ front) nonempty token
  exact h.step (a := .move (.next token)) left proceeds (take_pieces_succ left).symm

/-- A sweep that has taken all pieces has left nothing but what was accepted since. -/
theorem contents_eq_of_all (h : Sweeps u sweep points (pieces u.maxBatchSize points).length s es)
    (sized : 0 < u.maxBatchSize) : s.buffer.contents = acceptedPoints es := by
  rw [h.contents_eq, List.drop_of_length_le (length_le_of_pieces sized), List.nil_append]

/-- The turn after the last piece ends a flush. -/
theorem finish_flush
    (h : Sweeps u .flush points (pieces u.maxBatchSize points).length s es)
    (sized : 0 < u.maxBatchSize) (free : s.isFree = true) (token : Except NoToken String) :
    s.next token = (s.withWorker {}, []) := by
  have worker_eq := h.worker_eq_of_isFree free
  rw [Sweep.phase, Nat.sub_eq_zero_of_le (length_le_of_pieces sized)] at worker_eq
  simp only [next, worker_eq, Nat.min_zero, Buffer.drainUpTo]
  rfl

/-- The turn after the last piece ends the worker, with nothing left to lose. -/
theorem finish_drain
    (h : Sweeps u .drain points (pieces u.maxBatchSize points).length s es)
    (sized : 0 < u.maxBatchSize) (free : s.isFree = true) (token : Except NoToken String) :
    s.next token = ({ s with buffer := s.buffer.closeAndDiscard.2, worker := none }, []) := by
  have worker_eq := h.worker_eq_of_isFree free
  have empty : s.buffer.contents = [] := by rw [h.contents_eq_of_all sized, (h.alone rfl).2]
  have front : (s.buffer.peek.2.drainUpTo s.setup.maxBatchSize).1 = [] := by
    rw [Buffer.drainUpTo_fst, Buffer.contents_peek, empty, List.take_nil]
  simp only [next, worker_eq, Sweep.phase, front, List.isEmpty_nil, if_true]
  simp [discardUnsent, farewell, inFlight, Worker.inFlight, worker_eq, Buffer.closeAndDiscard,
    Buffer.isEmpty, Buffer.length, empty, lossEvents, Stats.lose]

/-- A run takes one piece in each turn, as long as there are pieces. -/
theorem run (h : Sweeps u sweep points k s es) (sized : 0 < u.maxBatchSize)
    {actions : List Action} (calm : .move .breakdown ∉ actions)
    (early : .move .deadline ∉ actions)
    (within : k + s.turns actions ≤ (pieces u.maxBatchSize points).length) :
    Sweeps u sweep points (k + s.turns actions) (s.run actions).1 (es ++ (s.run actions).2) := by
  induction actions generalizing k s es with
  | nil => simpa [turns, Sender.run] using h
  | cons a rest ih =>
    rw [List.mem_cons, not_or] at calm early
    have run_eq : s.run (a :: rest) =
        (((s.step a).1.run rest).1, (s.step a).2 ++ ((s.step a).1.run rest).2) := rfl
    rw [turns] at within ⊢
    rw [run_eq, ← List.append_assoc, ← Nat.add_assoc]
    rw [← Nat.add_assoc] at within
    refine ih ?_ calm.2 early.2 within
    -- the step takes the next piece if it is a turn, and otherwise none
    cases is_turn : s.isTurn a with
    | false => simpa using h.rest (Ne.symm calm.1) (Ne.symm early.1) is_turn
    | true =>
      obtain ⟨token, rfl⟩ := exists_next_of_isTurn is_turn
      have left : k < (pieces u.maxBatchSize points).length := by
        rw [is_turn, if_pos rfl] at within
        omega
      exact h.turn sized is_turn left token

end Sweeps

theorem run_concat (s : Sender) (actions : List Action) (a : Action) :
    s.run (actions ++ [a]) =
      (((s.run actions).1.step a).1, (s.run actions).2 ++ ((s.run actions).1.step a).2) := by
  simp [run_append, run]

/-- The turn with a number, in a run that has so many. -/
theorem exists_turn {s : Sender} {actions : List Action} {k : Nat} (enough : k < s.turns actions) :
    ∃ before token after, actions = before ++ .move (.next token) :: after ∧
      s.turns before = k ∧ (s.run before).1.isFree = true := by
  induction actions generalizing s k with
  | nil => cases enough
  | cons a rest ih =>
    -- a turn later in the run is one later in the rest
    have later {j : Nat} (more : j < (s.step a).1.turns rest) :
        ∃ before token after, a :: rest = before ++ .move (.next token) :: after ∧
          s.turns before = (if s.isTurn a then 1 else 0) + j ∧
          (s.run before).1.isFree = true := by
      obtain ⟨before, token, after, rfl, turns_eq, free⟩ := ih more
      exact ⟨a :: before, token, after, rfl, by rw [turns, turns_eq], free⟩
    rw [turns] at enough
    cases is_turn : s.isTurn a with
    | false =>
      rw [is_turn] at later enough
      simpa using later (j := k) (by simpa using enough)
    | true =>
      rw [is_turn, if_pos rfl] at later enough
      cases k with
      | zero =>
        obtain ⟨token, rfl⟩ := exists_next_of_isTurn is_turn
        exact ⟨[], token, rest, rfl, rfl, is_turn⟩
      | succ k =>
        rw [Nat.add_comm k 1]
        exact later (by omega)

/-- A sweep that has as many turns as there are pieces, and one more, comes to the end of its
pieces with a worker that is free. -/
theorem Sweeps.exists_end {u : Setup} {sweep : Sweep} {points : List Point} {s : Sender}
    (h : Sweeps u sweep points 0 s []) (sized : 0 < u.maxBatchSize) {actions : List Action}
    (calm : .move .breakdown ∉ actions) (early : .move .deadline ∉ actions)
    (enough : (pieces u.maxBatchSize points).length < s.turns actions) :
    ∃ before token after, actions = before ++ .move (.next token) :: after ∧
      s.turns before = (pieces u.maxBatchSize points).length ∧
      (s.run before).1.isFree = true ∧
      Sweeps u sweep points (pieces u.maxBatchSize points).length (s.run before).1
        (s.run before).2 := by
  obtain ⟨before, token, after, rfl, turns_eq, free⟩ := exists_turn enough
  rw [List.mem_append, not_or] at calm early
  have done := h.run sized calm.1 early.1 (by rw [turns_eq, Nat.zero_add])
  rw [turns_eq, Nat.zero_add, List.nil_append] at done
  exact ⟨before, token, after, rfl, turns_eq, free, done⟩

/-- A worker that is about to send points, and has taken none yet. -/
theorem sweeps_start {s : Sender} {sweep : Sweep} (started : s.lifecycle ≠ .idle)
    (at_phase : s.worker =
      some { phase := sweep.phase s.setup.maxBatchSize s.buffer.contents 0 })
    (closed : sweep = .drain → s.buffer.isClosed = true) :
    Sweeps s.setup sweep s.buffer.contents 0 s [] where
  setup_eq := rfl
  started := started
  phase_eq := by rw [at_phase]; rfl
  bounded := Nat.zero_le _
  taken_eq := rfl
  discarded_eq := rfl
  order := (List.append_nil _).symm
  alone := fun drains => ⟨closed drains, rfl⟩

/-- **A flush sends exactly what was buffered when it began, in full batches**, and so does the
drain before the end.  The worker of a sender is about to send what is buffered, and anything
happens but that it is cut off or breaks down:

* what is buffered falls into pieces, each but the last as large as a batch can be, and they are
  as few as possible;
* as long as there are no more turns than pieces, a flush has taken one piece in each turn.  The
  points that remain and those that were taken are all points, so that the count of what remains
  never falls below zero, and what is accepted meanwhile stands behind what remains;
* the turn after that ends the flush, so that a flush ends if each of its batches does: it has
  taken all pieces, and only what has been accepted since is buffered;
* the same goes for a drain, into which nothing comes, and with which the worker ends. -/
theorem sends_exactly_in_full_batches {s : Sender} (started : s.lifecycle ≠ .idle)
    (sized : 0 < s.setup.maxBatchSize) (actions : List Action)
    (calm : .move .breakdown ∉ actions) (early : .move .deadline ∉ actions) :
    let size := s.setup.maxBatchSize
    let points := s.buffer.contents
    let all := pieces size points
    let r := s.run actions
    (all.flatten = points ∧ all.length = (points.length + size - 1) / size ∧
      ∀ i (h : i < all.length), all[i] ≠ [] ∧ all[i].length ≤ size ∧
        (i + 1 < all.length → all[i].length = size)) ∧
    (s.worker = some { phase := .flushing points.length } →
      (s.turns actions ≤ all.length →
        takenBatches r.2 = all.take (s.turns actions) ∧
        (takenBatches r.2).flatten ++ r.1.buffer.contents = points ++ acceptedPoints r.2 ∧
        ∃ remaining, r.1.worker.map (·.phase) = some (.flushing remaining) ∧
          remaining + (takenBatches r.2).flatten.length = points.length) ∧
      (all.length < s.turns actions →
        ∃ before token after, actions = before ++ .move (.next token) :: after ∧
          s.turns before = all.length ∧
          let last := s.run (before ++ [.move (.next token)])
          last.1.worker = some {} ∧ takenBatches last.2 = all ∧
            last.1.buffer.contents = acceptedPoints last.2)) ∧
    (s.worker = some { phase := .draining } → s.buffer.isClosed = true →
      (s.turns actions ≤ all.length →
        takenBatches r.2 = all.take (s.turns actions) ∧
        (takenBatches r.2).flatten ++ r.1.buffer.contents = points ∧
        r.1.worker.map (·.phase) = some .draining) ∧
      (all.length < s.turns actions →
        ∃ before token after, actions = before ++ .move (.next token) :: after ∧
          s.turns before = all.length ∧
          let last := s.run (before ++ [.move (.next token)])
          last.1.worker = none ∧ takenBatches last.2 = all ∧
            last.1.buffer.contents = [] ∧ discardedPoints last.2 = [])) := by
  intro size points all r
  refine ⟨⟨flatten_pieces sized, length_pieces, fun i h => full_of_lt_length_pieces sized h⟩,
    fun flushes => ?_, fun drains closed => ?_⟩
  · have h : Sweeps s.setup .flush points 0 s [] :=
      sweeps_start started (by simpa [Sweep.phase] using flushes) nofun
    refine ⟨fun within => ?_, fun enough => ?_⟩
    · have course := h.run sized calm early (by simpa using within)
      rw [Nat.zero_add, List.nil_append] at course
      refine ⟨course.taken_eq, course.order, _, course.phase_eq, ?_⟩
      rw [course.taken_eq, flatten_take_pieces within, List.length_take, Nat.min_comm]
      exact Nat.sub_add_min_cancel _ _
    · obtain ⟨before, token, after, split, turns_eq, free, done⟩ :=
        h.exists_end sized calm early enough
      have last : s.run (before ++ [.move (.next token)]) =
          ((s.run before).1.withWorker {}, (s.run before).2) := by
        rw [run_concat, step, move, done.finish_flush sized free token, List.append_nil]
      refine ⟨before, token, after, split, turns_eq, ?_⟩
      rw [last]
      exact ⟨rfl, done.taken_eq.trans List.take_length, done.contents_eq_of_all sized⟩
  · have h : Sweeps s.setup .drain points 0 s [] := sweeps_start started drains fun _ => closed
    refine ⟨fun within => ?_, fun enough => ?_⟩
    · have course := h.run sized calm early (by simpa using within)
      rw [Nat.zero_add, List.nil_append] at course
      have order := course.order
      rw [(course.alone rfl).2, List.append_nil] at order
      exact ⟨course.taken_eq, order, course.phase_eq⟩
    · obtain ⟨before, token, after, split, turns_eq, free, done⟩ :=
        h.exists_end sized calm early enough
      have last : s.run (before ++ [.move (.next token)]) =
          ({ (s.run before).1 with
              buffer := (s.run before).1.buffer.closeAndDiscard.2, worker := none },
            (s.run before).2) := by
        rw [run_concat, step, move, done.finish_drain sized free token, List.append_nil]
      refine ⟨before, token, after, split, turns_eq, ?_⟩
      rw [last]
      exact ⟨rfl, done.taken_eq.trans List.take_length, rfl, done.discarded_eq⟩

/-- Three points are flushed in two batches, and one more comes meanwhile. -/
def sampleFlush (point : Point) : List Action :=
  [.move (.next (.ok "secret")), .submit [point] false, .move (.hear acknowledged),
    .move (.next (.ok "secret")), .move (.hear acknowledged), .move (.next (.ok "secret"))]

/-- A sender with room for three points and batches of two. -/
def sampleSender : Sender where
  setup := sampleBuilder.setup (.fixed "secret")
  buffer := { capacity := 3, policy := .reject }

theorem sends_exactly_in_full_batches_sample :
    let point : Point := ⟨"cpu", .gauge, .int 4, none, [], 1⟩
    sampleBuilder.build = .ok sampleSender ∧
    (let t := sampleSender.after (sampleOps.take 6)
     t.buffer.peeked.isSome ∧ t.worker = some { phase := .flushing 3 } ∧
      (t.run (sampleFlush point)).1.buffer.contents = [point] ∧
      ∃ before token after, sampleFlush point = before ++ .move (.next token) :: after ∧
        t.turns before = (pieces 2 t.buffer.contents).length ∧
        takenBatches (t.run (before ++ [.move (.next token)])).2 = pieces 2 t.buffer.contents) ∧
    (let t := sampleSender.after (sampleOps.take 4 ++ [.move .stop, .move .notice])
     t.buffer.peeked = none ∧ t.worker = some { phase := .draining } ∧
      ∃ before token after, sampleFlush point = before ++ .move (.next token) :: after ∧
        (t.run (before ++ [.move (.next token)])).1.worker = none ∧
        takenBatches (t.run (before ++ [.move (.next token)])).2 = pieces 2 t.buffer.contents) := by
  intro point
  have calm : .move .breakdown ∉ sampleFlush point := by simp [sampleFlush]
  have early : .move .deadline ∉ sampleFlush point := by simp [sampleFlush]
  refine ⟨rfl, ⟨by decide, by decide, by decide, ?_⟩, by decide, by decide, ?_⟩
  · have sent := sends_exactly_in_full_batches (s := sampleSender.after (sampleOps.take 6))
      (by decide) (by decide) (sampleFlush point) calm early
    obtain ⟨before, token, after, split, turns_eq, -, taken_eq, -⟩ :=
      (sent.2.1 (by decide)).2 (by decide)
    exact ⟨before, token, after, split, turns_eq, taken_eq⟩
  · have sent := sends_exactly_in_full_batches
      (s := sampleSender.after (sampleOps.take 4 ++ [.move .stop, .move .notice]))
      (by decide) (by decide) (sampleFlush point) calm early
    obtain ⟨before, token, after, split, -, ended, taken_eq, -⟩ :=
      (sent.2.2 (by decide) (by decide)).2 (by decide)
    exact ⟨before, token, after, split, ended, taken_eq⟩

end Sender
end MetricRelay
