import MetricRelay.Codec
import MetricRelay.Sender.Options
import MetricRelay.Sender.Report
import MetricRelay.Sender.Stats

/-!
# Senders

A sender buffers points and hands them in batches to a worker, which delivers one batch at a
time.  The worker starts with the sender and ends some time after the sender was stopped: it
first finishes what it is doing and sends what is left, unless time runs out.

`SenderBuilder.build` makes a sender from options and from what replaces their parts.
-/

namespace MetricRelay

/-- Writes the points of a batch. -/
structure Encoder where
  contentType : String
  encode : List Point → Except EncodeError Bytes

/-- The encoder of a format. -/
def Format.encoder (f : Format) : Encoder := ⟨f.contentType, f.encode⟩

namespace Sender

/-- What stays the same for the life of a sender. -/
structure Setup where
  name : String
  options : SenderOptions
  tokens : TokenProvider
  encoder : Encoder
  client : Client

/-- The thread of the worker can have the name of the sender: there is no zero byte in it. -/
def Setup.isNameable (u : Setup) : Bool := !(Utf8.encode u.name).contains 0

/-- The largest number of points in a batch. -/
def Setup.maxBatchSize (u : Setup) : Nat := u.options.maxBatchSize.toNat

/-- A batch between its first request and its end. -/
structure Flight where
  batch : List Point
  request : Request
  /-- The number of the latest attempt. -/
  attempt : UInt32 := 1
  /-- The wait before the next attempt; none while an answer is awaited. -/
  wait : Option Duration := none
deriving DecidableEq, Repr

/-- What a worker is at. -/
inductive Phase where
  /-- It waits for points and for the time of the next flush. -/
  | waiting
  /-- It sends the points that were there when the flush began, of which some remain. -/
  | flushing (remaining : Nat)
  /-- It sends all that is left before it ends. -/
  | draining
deriving DecidableEq, Repr

structure Worker where
  phase : Phase := .waiting
  /-- The batch that is being sent. -/
  flight : Option Flight := none
deriving DecidableEq, Repr

/-- The points of the batch that is being sent. -/
def Worker.inFlight (w : Worker) : List Point :=
  match w.flight with
  | none => []
  | some f => f.batch

inductive Lifecycle where
  | idle
  | running
  /-- A call to start broke down.  Nobody has called to stop, but there will never be a worker. -/
  | broken
  | stopped
deriving DecidableEq, Repr

end Sender

/-- A sender with its worker. -/
structure Sender where
  setup : Sender.Setup
  buffer : Buffer
  lifecycle : Sender.Lifecycle := .idle
  /-- The worker, from the start of the sender until its work is over. -/
  worker : Option Sender.Worker := none
  stats : Stats := {}

/-- Why a sender refused a request. -/
inductive SenderError where
  | invalidPoint (cause : PointError)
  | enqueue (points : Nat) (cause : EnqueueError)
  | stopped
  | alreadyStarted
  | sessionClosed
  /-- There is no thread for the worker. -/
  | runtime (reason : String)
deriving DecidableEq, Repr

def SenderError.message : SenderError → String
  | .invalidPoint cause => s!"Invalid point: {cause.message}"
  | .enqueue points cause => s!"Failed to enqueue {points} point(s): {cause.message}"
  | .stopped => "Sender is stopped."
  | .alreadyStarted => "Sender is already started."
  | .sessionClosed => "Session is closed."
  | .runtime reason => s!"Failed to start background thread: {reason}"

/-! ### Building -/

/-- What a sender is made from. -/
structure SenderBuilder where
  name : String := "sluice"
  options : SenderOptions
  tokens : Option TokenProvider := none
  /-- The encoder in place of the one that the options name. -/
  encoder : Option Encoder := none
  /-- The policy in place of the one that the options describe. -/
  policy : Option RetryPolicy := none
  /-- Makes gzip members for bodies that are compressed. -/
  gzip : Compressor
  /-- The sender opens its own connections. -/
  connects : Bool := false

/-- Why no sender was built. -/
inductive BuildError where
  | invalid (reason : String)
  /-- No buffer has the capacity that the options ask for. -/
  | unbufferable
  /-- There cannot be so many connections. -/
  | tooManyConnections
deriving DecidableEq, Repr

namespace SenderBuilder

/-- The largest number of connections: an eighth of the 64-bit range. -/
def maxConnections : Nat := UInt64.size / 8 - 1

/-- The builder with another format, which takes the place of any encoder. -/
def withFormat (b : SenderBuilder) (f : Format) : SenderBuilder :=
  { b with options := { b.options with encoding := f }, encoder := none }

/-- What the builder sets up, given the provider of tokens. -/
def setup (b : SenderBuilder) (tokens : TokenProvider) : Sender.Setup where
  name := b.name
  options := b.options
  tokens := tokens
  encoder := b.encoder.getD b.options.encoding.encoder
  client := {
    url := b.options.ingestUrl
    policy := b.policy.getD b.options.retry.policy
    compression := .ofEnabled b.gzip b.options.compresses }

/-- There can be as many connections as the options ask for. -/
def canConnect (b : SenderBuilder) : Bool :=
  match b.options.connectionMode with
  | .single => true
  | .pooled n => n.toNat ≤ maxConnections

/-- The sender, which is not started yet. -/
def build (b : SenderBuilder) : Except BuildError Sender :=
  match b.options.fault?, b.tokens with
  | some reason, _ => .error (.invalid reason)
  | none, none => .error (.invalid "an authentication token or token provider is required")
  | none, some tokens =>
    if b.connects && !b.canConnect then .error .tooManyConnections
    else
      match Buffer.create? b.options.maxBufferSize.toNat b.options.overflowPolicy with
      | none => .error .unbufferable
      | some buffer => .ok { setup := b.setup tokens, buffer }

end SenderBuilder

end MetricRelay
