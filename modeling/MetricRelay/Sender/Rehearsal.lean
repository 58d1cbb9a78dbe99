import MetricRelay.Sender.Station

/-!
# Rehearsals

A rehearsal runs a station against a script of reactions of the transport, with one order of
steps out of all possible ones: the worker looks at the first point as soon as there is one,
flushes only while somebody waits for that, and otherwise leaves everything to the stop.  Time
passes only while the worker waits for its next attempt; a stop allows for so much of it, and
a request that is never answered takes more than any stop allows for.

Everything is done through `Station.perform`, so a rehearsal is a run of its station.
-/

namespace MetricRelay

/-- What a transport does with a request. -/
inductive Reaction where
  | answer (outcome : Outcome)
  /-- The request is never answered. -/
  | stall
  /-- The worker breaks down. -/
  | breakdown

/-- A station on its way through a script. -/
structure Rehearsal where
  station : Station
  /-- The reactions to the next requests; all later ones are acknowledged. -/
  script : List Reaction := []
  /-- The number of batches for which a token was asked for. -/
  batches : Nat := 0
  /-- The current request is never answered. -/
  isStalled : Bool := false
  events : List Sender.Event := []

namespace Rehearsal

def sender (r : Rehearsal) : Sender := r.station.sender

/-- Carries out an operation, and gives its answer. -/
def perform (r : Rehearsal) (op : Station.Operation) :
    Option (Except SenderError Unit) × Rehearsal :=
  let reply := r.station.perform op
  (reply.answer, { r with station := reply.station, events := r.events ++ reply.events })

/-- Makes a move. -/
def move (r : Rehearsal) (m : Sender.Move) : Rehearsal := (r.perform (.move m)).2

/-! ### The worker -/

/-- The batch that is being sent. -/
def flight? (r : Rehearsal) : Option Sender.Flight := r.sender.worker >>= (·.flight)

/-- The next reaction of the transport. -/
def react (r : Rehearsal) : Rehearsal :=
  match r.script with
  | [] => r.move (.hear acknowledged)
  | .answer outcome :: script => { r with script }.move (.hear outcome)
  | .stall :: script => { r with script, isStalled := true }
  | .breakdown :: script => { r with script }.move .breakdown

/-- Sends the current batch to its end, if the time that passes stays within the limit.  The
time is none if the batch does not come to an end. -/
def finishFlight (limit : Option Nat) : Nat → Nat → Rehearsal → Rehearsal × Option Nat
  | 0, _, r => (r, none)
  | fuel + 1, elapsed, r =>
    match r.flight? with
    | none => (r, some elapsed)
    | some flight =>
      match flight.wait with
      | some wait =>
        let elapsed := elapsed + wait.totalNanos
        if limit.all (elapsed ≤ ·) then finishFlight limit fuel elapsed (r.move .resume)
        else (r, none)
      | none =>
        if r.isStalled then (r, none)
        else finishFlight limit fuel elapsed r.react

/-- Turns to the next batch, with the token that the provider gives for it. -/
def nextBatch (r : Rehearsal) : Rehearsal :=
  let after := r.move (.next (r.sender.setup.tokens r.batches))
  if after.sender.buffer.length < r.sender.buffer.length then
    { after with batches := r.batches + 1 }
  else after

/-- Lets the worker go on until it waits, has ended or is stuck.  A worker of a stopped sender
that is stuck is cut off. -/
def work (limit : Option Nat) : Nat → Nat → Rehearsal → Rehearsal
  | 0, _, r => r
  | fuel + 1, elapsed, r =>
    match finishFlight limit (2 * Client.countable) elapsed r with
    | (r, none) => r.move .deadline
    | (r, some elapsed) =>
      match r.sender.worker, r.sender.lifecycle with
      | some { phase := .waiting, flight := _ }, .stopped =>
        work limit fuel elapsed (r.move .notice)
      | some { phase := .waiting, flight := _ }, _ => r
      | some _, _ => work limit fuel elapsed r.nextBatch
      | none, _ => r

/-- How many times a worker turns to something else, at most: to a batch of one point at least,
or to the end of a phase. -/
def turns (r : Rehearsal) : Nat := r.sender.buffer.length + 4

/-! ### Calls -/

/-- Carries out an operation of a caller, after which the worker looks at the first point. -/
def call (r : Rehearsal) (op : Station.Operation) :
    Option (Except SenderError Unit) × Rehearsal :=
  let (answer, r) := r.perform op
  (answer, r.move .wake)

/-- Waits until the worker has flushed what is buffered. -/
def flushNow (r : Rehearsal) : Rehearsal :=
  let r := (r.move .wake).move .flush
  work none r.turns 0 r

/-- Stops the sender and waits for the worker, at most for the given time. -/
def stop (r : Rehearsal) (timeout : Duration) : Rehearsal :=
  let r := r.move .stop
  work (some timeout.totalNanos) r.turns 0 r

/-- Stops the sender within the time that its options give. -/
def shutDown (r : Rehearsal) : Rehearsal :=
  r.stop (.ofMillis r.sender.setup.options.shutdownTimeoutMs)

/-- Ends the rehearsal: the sessions are dropped in the order of their names, and then the
sender is. -/
def finish (r : Rehearsal) (now : Int64) : Rehearsal :=
  let r := (r.station.sessions.map (·.1)).foldl
    (fun r session => (r.call (.dropSession session now)).2) r
  r.shutDown

/-! ### What was seen -/

def requests (r : Rehearsal) : List Request :=
  r.events.filterMap fun
    | .requested request => some request
    | _ => none

def reports (r : Rehearsal) : List Report :=
  r.events.filterMap fun
    | .reported report => some report
    | _ => none

end Rehearsal

end MetricRelay
