import MetricRelay.Sender.Basic

/-!
# Steps of a sender

Everything that happens to a sender is an `Action`: points are submitted, or there is a `Move`
of the caller (`start`, `stop`), of the worker, or of the world, which is the answer of the
transport, the end of a wait, the deadline of a stop.  `Sender.step` gives the state after an
action and the `Event`s that it causes.  An action that is not possible in a state leaves the
state as it is.  A run is any sequence of actions, so a statement about all runs is one about
every order in which callers, worker and transport take their steps.

A step is taken as a whole.  In particular, points are counted in the step that puts them into the
buffer.  With threads of their own, a worker may be done with a batch before the caller has counted
its points; no run shows the moment between the two.

Every accepted point goes through the buffer into a batch (`Event.taken`) whose fate is settled
later (`Event.settled`), or it is thrown away when the sender stops (`Event.discarded`).
-/

namespace MetricRelay
namespace Sender

/-- What becomes of a batch. -/
inductive Fate where
  /-- The request was answered with the acknowledgement. -/
  | acknowledged (request : Request)
  /-- It was given up, and the worker went on. -/
  | dropped
  /-- Its delivery was cut off. -/
  | abandoned
deriving DecidableEq, Repr

/-- What can be seen of a run. -/
inductive Event where
  | accepted (points : List Point)
  | taken (batch : List Point)
  | requested (request : Request)
  /-- The request of the batch in flight has ended. -/
  | answered (outcome : Outcome)
  | settled (batch : List Point) (fate : Fate)
  | discarded (points : List Point)
  | reported (report : Report)
deriving Repr

/-- The handlers after events: every report goes to all of them. -/
def inform (hs : List Handler) (es : List Event) : List Handler :=
  es.foldl (fun hs e => match e with
    | .reported report => Handler.tellAll hs report
    | _ => hs) hs

/-- What can happen to a sender besides the submission of points. -/
inductive Move where
  /-- A call to start, and whether there is a thread for the worker or why not. -/
  | start (thread : Except String Unit)
  /-- A call to stop.  How long it waits for the worker is up to the `deadline`. -/
  | stop
  /-- The worker looks at the next point. -/
  | wake
  /-- The time of a flush has come. -/
  | flush
  /-- The worker learns that the sender was stopped. -/
  | notice
  /-- The worker turns to the next batch, for which it asks for a token. -/
  | next (token : Except NoToken String)
  /-- A request has ended. -/
  | hear (outcome : Outcome)
  /-- The wait before the next attempt is over. -/
  | resume
  /-- The time for stopping is up. -/
  | deadline
  /-- Something panics: the worker, or a call to start that can make none. -/
  | breakdown

/-- What can happen to a sender. -/
inductive Action where
  | submit (points : List Point) (inRuntime : Bool)
  | move (m : Move)

/-! ### Calls -/

/-- The answer to an offer of points; none while the caller has to wait. -/
def submission (s : Sender) (points : List Point) (inRuntime : Bool) :
    Option (Except SenderError Unit) :=
  if points.isEmpty then some (.ok ())
  else if s.lifecycle = .stopped then some (.error .stopped)
  else
    match s.buffer.enqueueAll points inRuntime with
    | .accepted _ => some (.ok ())
    | .refused e => some (.error (.enqueue points.length e))
    | .waiting => none

/-- Offers points as a unit. -/
def submit (s : Sender) (points : List Point) (inRuntime : Bool) : Sender × List Event :=
  if points.isEmpty then (s, [])
  else if s.lifecycle = .stopped then ({ s with stats := s.stats.reject points.length }, [])
  else
    match s.buffer.enqueueAll points inRuntime with
    | .accepted buffer =>
      ({ s with buffer, stats := s.stats.accept points.length }, [.accepted points])
    | .refused _ => ({ s with stats := s.stats.reject points.length }, [])
    | .waiting => (s, [])

/-- The events of a loss of points, of which there are none to report if there are no points. -/
def lossEvents (points : Nat) (report : Nat → Report) : List Event :=
  if points = 0 then [] else [.reported (report points)]

/-- The points of the batch that is being sent. -/
def inFlight (s : Sender) : List Point :=
  match s.worker with
  | none => []
  | some w => w.inFlight

/-- The events of giving up all points: the batch in flight is abandoned, and what is buffered is
thrown away. -/
def farewell (s : Sender) : List Event :=
  (if s.inFlight.isEmpty then [] else [.settled s.inFlight .abandoned]) ++
    (if s.buffer.isEmpty then [] else [.discarded s.buffer.contents])

/-- Ends the worker's part for good; all points that are left are lost. -/
def discardUnsent (s : Sender) : Sender × List Event :=
  let (discarded, buffer) := s.buffer.closeAndDiscard
  let lost := s.inFlight.length + discarded
  ({ s with buffer, worker := none, stats := s.stats.lose lost },
    s.farewell ++ lossEvents lost .ofDeadline)

/-- Counts everything that is pending as lost, after the worker broke down. -/
def reportUnsent (s : Sender) : Sender × List Event :=
  let lost := s.stats.pending
  ({ s with stats := s.stats.lose lost }, lossEvents lost .ofBreakdown)

/-- The answer to a call to start.  There is none if no thread can have the name of the sender:
the call does not return then, and what it leaves behind is a `breakdown`. -/
def startable (s : Sender) (thread : Except String Unit) : Option (Except SenderError Unit) :=
  match s.lifecycle with
  | .idle => if s.setup.isNameable then some (thread.mapError .runtime) else none
  | .running => some (.error .alreadyStarted)
  | .broken | .stopped => some (.error .stopped)

/-- Starts the worker of a sender that is idle.  Without a thread for it, the points are lost, and
the sender is stopped. -/
def start (s : Sender) (thread : Except String Unit) : Sender × List Event :=
  if s.lifecycle = .idle && s.setup.isNameable then
    match thread with
    | .ok () => ({ s with lifecycle := .running, worker := some {} }, [])
    | .error _ =>
      let failed :=
        { s with lifecycle := .stopped, buffer := s.buffer.closeAndDiscard.2, worker := none }
      let (failed, events) := failed.reportUnsent
      (failed, s.farewell ++ events)
  else (s, [])

/-- Stops the sender: nothing is accepted any more.  A worker that runs is told, and all that
follows is up to it; the points of a sender without one are lost.

The call returns when the worker has ended, which it has at the deadline at the latest.  A time that
is too long for the clock makes the call panic, but not before the sender is stopped and with no
other trace than that the worker is cut off as soon as it waits, as at a deadline. -/
def stop (s : Sender) : Sender × List Event :=
  let stopped := { s with lifecycle := .stopped }
  -- a sender that runs without a worker has seen it break down
  match s.lifecycle, s.worker with
  | .idle, _ => stopped.discardUnsent
  | .running, none => stopped.reportUnsent
  | .running, some _ => (stopped, [])
  | .broken, _ => (stopped, [])
  | .stopped, _ => (s, [])

/-! ### Moves of the worker -/

/-- The sender with a worker in another state. -/
def withWorker (s : Sender) (w : Worker) : Sender := { s with worker := some w }

/-- The worker looks at the next point. -/
def wake (s : Sender) : Sender × List Event :=
  match s.worker with
  | some { phase := .waiting, flight := none } => ({ s with buffer := s.buffer.peek.2 }, [])
  | _ => (s, [])

/-- A worker that has seen a point begins to send what is there. -/
def flush (s : Sender) : Sender × List Event :=
  match s.worker with
  | some { phase := .waiting, flight := none } =>
    if s.buffer.peeked.isSome then
      (s.withWorker { phase := .flushing s.buffer.length }, [])
    else (s, [])
  | _ => (s, [])

/-- A waiting worker of a stopped sender closes the buffer and sends what is left. -/
def notice (s : Sender) : Sender × List Event :=
  match s.worker, s.lifecycle with
  | some { phase := .waiting, flight := none }, .stopped =>
    ({ s with buffer := s.buffer.close, worker := some { phase := .draining } }, [])
  | _, _ => (s, [])

/-- A batch is given up. -/
def fail (s : Sender) (batch : List Point) (report : Report) : Sender × List Event :=
  ({ s with stats := s.stats.drop batch.length }, [.settled batch .dropped, .reported report])

/-- The worker takes on a batch: it is encoded and its first request is made, unless that is not
possible. -/
def send (s : Sender) (w : Worker) (batch : List Point) (token : Except NoToken String) :
    Sender × List Event :=
  let s := s.withWorker w
  match token with
  | .error e => s.fail batch (.ofToken e batch.length)
  | .ok token =>
    match s.setup.encoder.encode batch with
    | .error e => s.fail batch (.ofEncode e batch.length)
    | .ok payload =>
      match s.setup.client.request token s.setup.encoder.contentType payload with
      | .error e => s.fail batch (.ofDelivery e batch.length)
      | .ok request =>
        (s.withWorker { w with flight := some { batch, request } }, [.requested request])

/-- The worker turns to the next batch.  A flush is over when none of its points remain, and
the worker ends when nothing is left to drain. -/
def next (s : Sender) (token : Except NoToken String) : Sender × List Event :=
  match s.worker with
  | some { phase := .flushing remaining, flight := none } =>
    let (batch, buffer) := s.buffer.drainUpTo (min s.setup.maxBatchSize remaining)
    if batch.isEmpty then (s.withWorker { phase := .waiting }, [])
    else
      let (s, events) := { s with buffer }.send
        { phase := .flushing (remaining - batch.length) } batch token
      (s, .taken batch :: events)
  | some { phase := .draining, flight := none } =>
    -- a worker that drains looks at a point before it takes a batch
    let (batch, buffer) := s.buffer.peek.2.drainUpTo s.setup.maxBatchSize
    if batch.isEmpty then s.discardUnsent
    else
      let (s, events) := { s with buffer }.send { phase := .draining } batch token
      (s, .taken batch :: events)
  | _ => (s, [])

/-- The worker hears how a request ended. -/
def hear (s : Sender) (outcome : Outcome) : Sender × List Event :=
  match s.worker with
  | some { phase, flight := some { batch, request, attempt, wait := none } } =>
    match s.setup.client.judge attempt request.body.length outcome with
    | .retry wait =>
      (s.withWorker { phase, flight := some { batch, request, attempt, wait := some wait } },
        [.answered outcome])
    | .finished (.ok delivery) =>
      ({ s with worker := some { phase }
                stats := s.stats.send batch.length delivery.bytesSent },
        [.answered outcome, .settled batch (.acknowledged request)])
    | .finished (.error e) =>
      let (s, events) := (s.withWorker { phase }).fail batch (.ofDelivery e batch.length)
      (s, .answered outcome :: events)
  | _ => (s, [])

/-- The worker makes another attempt, as long as attempts can be counted. -/
def resume (s : Sender) : Sender × List Event :=
  match s.worker with
  | some { phase, flight := some { batch, request, attempt, wait := some _ } } =>
    if attempt.toNat < Client.countable then
      (s.withWorker { phase, flight := some { batch, request, attempt := attempt + 1 } },
        [.requested request])
    else (s, [])
  | _ => (s, [])

/-- The worker of a stopped sender is cut off. -/
def deadline (s : Sender) : Sender × List Event :=
  match s.worker, s.lifecycle with
  | some _, .stopped => s.discardUnsent
  | _, _ => (s, [])

/-- The worker breaks down, and what is buffered goes with it.  A caller that waits for the
worker counts the loss.  Before there is a worker, it is the call to start that breaks down, if no
thread can have the name of the sender. -/
def breakdown (s : Sender) : Sender × List Event :=
  let broken := { s with buffer := s.buffer.closeAndDiscard.2, worker := none }
  match s.worker, s.lifecycle with
  | some _, .stopped =>
    let (broken, events) := broken.reportUnsent
    (broken, s.farewell ++ events)
  | some _, _ => (broken, s.farewell)
  | none, .idle =>
    if s.setup.isNameable then (s, []) else ({ broken with lifecycle := .broken }, s.farewell)
  | none, _ => (s, [])

/-! ### Runs -/

/-- The state after a move, and the events. -/
def move (s : Sender) : Move → Sender × List Event
  | .start thread => s.start thread
  | .stop => s.stop
  | .wake => s.wake
  | .flush => s.flush
  | .notice => s.notice
  | .next token => s.next token
  | .hear outcome => s.hear outcome
  | .resume => s.resume
  | .deadline => s.deadline
  | .breakdown => s.breakdown

/-- The state after an action, and the events. -/
def step (s : Sender) : Action → Sender × List Event
  | .submit points inRuntime => s.submit points inRuntime
  | .move m => s.move m

/-- The state after a sequence of actions, and all events. -/
def run (s : Sender) : List Action → Sender × List Event
  | [] => (s, [])
  | a :: rest =>
    let (s, events) := s.step a
    let (s, more) := s.run rest
    (s, events ++ more)

end Sender
end MetricRelay
