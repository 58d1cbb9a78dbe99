import MetricRelay.Delivery.Compression
import MetricRelay.Delivery.Retry
import MetricRelay.Diagnostic
import MetricRelay.Text.Quoted

/-!
# Delivering a payload

A client compresses a payload once, prepares one request with it, and sends this request until
the retry policy gives up.  What to do after an attempt is decided by `Client.judge` from the
outcome and the number of the attempt alone; `Client.deliver` runs the attempts against a sequence
of outcomes.

Attempts are counted in 32 bits.  A policy that never gives up exhausts the count, and there is
no attempt after that.
-/

namespace MetricRelay

/-- A request as the transport gets it. -/
structure Request where
  url : String
  /-- Header names in lower case and in ascending order, with their values. -/
  headers : List (String × String)
  body : Bytes
deriving DecidableEq, Repr

/-- Why a payload was not delivered. -/
inductive DeliveryError where
  | invalidToken
  | compression (reason : String)
  | transport (attempts : UInt32) (cause : TransportError)
  | unexpectedStatus (attempts : UInt32) (status : Nat)
  | unexpectedAcknowledgement (body : Bytes)
deriving DecidableEq, Repr

namespace DeliveryError

def message : DeliveryError → String
  | .invalidToken =>
    "Authentication token contains characters that are not valid in a header."
  | .compression _ => "Failed to compress payload."
  | .transport attempts _ => s!"Failed to send payload after {attempts} attempt(s)."
  | .unexpectedStatus attempts status =>
    "Ingest endpoint responded with status " ++ statusText status ++
      s!" after {attempts} attempt(s)."
  | .unexpectedAcknowledgement body =>
    "Ingest endpoint did not acknowledge payload (body: " ++
      quoted (String.ofList (Utf8.decodeLossy body)) ++ ")."

/-- The attempts that the error reports. -/
def attempts : DeliveryError → UInt32
  | .invalidToken => 0
  | .compression _ => 0
  | .transport attempts _ => attempts
  | .unexpectedStatus attempts _ => attempts
  | .unexpectedAcknowledgement _ => 1

/-- The text of the cause, if there is one. -/
def cause? : DeliveryError → Option String
  | .invalidToken => some "failed to parse header value"
  | .compression reason => some reason
  | .transport _ cause => some cause.message
  | .unexpectedStatus _ _ => none
  | .unexpectedAcknowledgement _ => none

end DeliveryError

/-- A delivered payload. -/
structure Delivery where
  attempts : UInt32
  bytesSent : Nat
deriving DecidableEq, Repr

/-- Sends payloads to one address. -/
structure Client where
  url : String
  policy : RetryPolicy
  compression : Compression

namespace Client

/-- How the client names itself to the endpoint. -/
def userAgent : String := "sluice/0.1.0"

/-- A token may stand in a header: it has no control characters but tabs. -/
def isHeaderValue (token : String) : Bool :=
  (Utf8.encode token).all fun b => (0x20 ≤ b || b == 0x09) && b != 0x7F

/-- The headers of a request in ascending order of their names. -/
def headers (c : Client) (token contentType : String) : List (String × String) :=
  (match c.compression.contentEncoding with
    | none => []
    | some name => [("content-encoding", name)]) ++
  [("content-type", contentType), ("user-agent", userAgent), ("x-sf-token", token)]

/-- The request for a payload.  The payload is compressed before the token is looked at. -/
def request (c : Client) (token contentType : String) (payload : Bytes) :
    Except DeliveryError Request :=
  match c.compression.compress payload with
  | .error reason => .error (.compression reason)
  | .ok body =>
    if isHeaderValue token then
      .ok { url := c.url, headers := c.headers token contentType, body }
    else .error .invalidToken

/-- The address without its query and fragment. -/
def shownUrl (url : String) : String :=
  String.ofList (url.toList.takeWhile fun c => c != '?' && c != '#')

/-- What went wrong in an attempt that is followed by another one. -/
def failureText : Outcome → String
  | .ok response => s!"Server responded with non-success status code {response.status}"
  | .error (.invalidResponse reason) =>
    s!"Server sent a response that could not be interpreted: {reason}"
  | .error e => e.message

/-- What is said before another attempt. -/
def retryNote (c : Client) (attempt : UInt32) (outcome : Outcome) (wait : Duration) : Diagnostic :=
  ⟨.warn, failureText outcome ++ ". Retrying after " ++ wait.text ++ ".",
    [("attempt", toString attempt), ("endpoint", shownUrl c.url)]⟩

/-- What is said after an acknowledged attempt. -/
def successNote (c : Client) (attempt : UInt32) : Diagnostic :=
  ⟨.debug, "Request succeeded.", [("attempt", toString attempt), ("endpoint", shownUrl c.url)]⟩

/-- What an attempt leads to. -/
inductive Verdict where
  | retry (wait : Duration)
  | finished (result : Except DeliveryError Delivery)

/-- The result of the last attempt.  Only status 200 together with the acknowledgement is a
success. -/
def conclude (attempt : UInt32) (bytesSent : Nat) : Outcome → Except DeliveryError Delivery
  | .ok response =>
    if response.status = 200 then
      if response.body = acknowledgement then .ok ⟨attempt, bytesSent⟩
      else .error (.unexpectedAcknowledgement response.body)
    else .error (.unexpectedStatus attempt response.status)
  | .error cause => .error (.transport attempt cause)

theorem conclude_acknowledged (attempt : UInt32) (bytes : Nat) :
    conclude attempt bytes acknowledged = .ok ⟨attempt, bytes⟩ := rfl

/-- Only the acknowledgement makes a delivery a success. -/
theorem conclude_of_ne_acknowledged {outcome : Outcome} (h : outcome ≠ acknowledged)
    (attempt : UInt32) (bytes : Nat) : ∃ e, conclude attempt bytes outcome = .error e := by
  rcases outcome with cause | ⟨status, body⟩
  · exact ⟨_, rfl⟩
  · simp only [conclude]
    split
    · split
      · subst status body
        exact absurd rfl h
      · exact ⟨_, rfl⟩
    · exact ⟨_, rfl⟩

/-- What to do after an attempt. -/
def judge (c : Client) (attempt : UInt32) (bytesSent : Nat) (outcome : Outcome) : Verdict :=
  if c.policy.shouldRetry outcome attempt then .retry (c.policy.wait attempt)
  else .finished (conclude attempt bytesSent outcome)

/-- What is said after an attempt. -/
def note (c : Client) (attempt : UInt32) (outcome : Outcome) : Verdict → List Diagnostic
  | .retry wait => [c.retryNote attempt outcome wait]
  | .finished (.ok _) => [c.successNote attempt]
  | .finished (.error _) => []

/-- What happens in the course of a delivery. -/
inductive Happening where
  | requested (request : Request)
  | logged (d : Diagnostic)
  /-- The wait after the attempt with this number. -/
  | waited (attempt : UInt32) (wait : Duration)
deriving DecidableEq, Repr

namespace Happening

def request? : Happening → Option Request
  | .requested request => some request
  | _ => none

def wait? : Happening → Option (UInt32 × Duration)
  | .waited attempt wait => some (attempt, wait)
  | _ => none

def diagnostic? : Happening → Option Diagnostic
  | .logged d => some d
  | _ => none

end Happening

/-- A delivery from its first attempt to its end. -/
structure Run where
  /-- What happens, in order. -/
  happenings : List Happening := []
  /-- The result; there is none if the count of attempts was exhausted. -/
  result : Option (Except DeliveryError Delivery)

namespace Run

/-- The requests made, one for each attempt. -/
def requests (r : Run) : List Request := r.happenings.filterMap (·.request?)

/-- The waits between attempts, with the numbers of the attempts before them. -/
def waits (r : Run) : List (UInt32 × Duration) := r.happenings.filterMap (·.wait?)

def log (r : Run) : List Diagnostic := r.happenings.filterMap (·.diagnostic?)

end Run

/-- The attempts from one number on.  `left` is how many more the count has room for. -/
def attempts (c : Client) (request : Request) (outcomes : Nat → Outcome) :
    Nat → Nat → Run
  | 0, _ => { result := none }
  | left + 1, attempt =>
    let outcome := outcomes attempt
    let number := attempt.toUInt32
    let verdict := c.judge number request.body.length outcome
    let happenings := .requested request :: (c.note number outcome verdict).map .logged
    match verdict with
    | .finished result => { happenings, result := some result }
    | .retry wait =>
      let later := c.attempts request outcomes left (attempt + 1)
      { happenings := happenings ++ .waited number wait :: later.happenings
        result := later.result }

/-- How many attempts can be counted. -/
def countable : Nat := UInt32.size - 1

/-- Delivers a payload through a transport that answers attempt `i` with `outcomes i`. -/
def deliver (c : Client) (token contentType : String) (payload : Bytes)
    (outcomes : Nat → Outcome) : Run :=
  match c.request token contentType payload with
  | .error e => { result := some (.error e) }
  | .ok request => c.attempts request outcomes countable 1

end Client

end MetricRelay
