import MetricRelay.Delivery.Outcome
import MetricRelay.Duration

/-!
# Retrying

A `RetryPolicy` says, after each attempt, whether there is another one and how long to wait for
it.  The standard policy retries what a classifier calls worth retrying, as long as the number
of the attempt does not exceed the number of retries.  Attempts are counted from one.
-/

namespace MetricRelay

/-- How long to wait between attempts. -/
inductive Backoff where
  | none
  | constant (d : Duration)
  /-- Twice as long after each attempt, from the shortest to the longest wait. -/
  | exponential (shortest longest : Duration)
deriving DecidableEq, Repr

/-- How often the shortest wait is taken after an attempt: twice as often each time, up to the
limit of a 32-bit factor. -/
def Backoff.factor (attempt : UInt32) : Nat :=
  if attempt ≤ 32 then Nat.pow 2 (attempt.toNat - 1) else UInt32.size - 1

/-- The wait after an attempt.  The longest wait is never shorter than the shortest one. -/
def Backoff.wait : Backoff → UInt32 → Duration
  | .none, _ => .zero
  | .constant d, _ => d
  | .exponential shortest longest, attempt =>
    if attempt ≤ 1 then shortest
    else
      (shortest.saturatingMul (factor attempt)).clamp shortest (longest.max shortest)

/-- Whether a failure is worth another attempt. -/
abbrev Classifier := Outcome → Bool

namespace Classifier

/-- Failures that may pass: a few statuses, and broken exchanges, but not an endpoint that
cannot be reached and not a request that was called off. -/
def transient : Classifier
  | .ok response => [408, 503, 504, 598].contains response.status
  | .error (.hostUnresolvable _) => false
  | .error (.connectionRefused _) => false
  | .error (.interrupted _) => false
  | .error (.invalidResponse _) => true
  | .error (.io _) => true

def everything : Classifier := fun _ => true

end Classifier

/-- When to try again, and after which wait. -/
structure RetryPolicy where
  shouldRetry : Outcome → UInt32 → Bool
  wait : UInt32 → Duration

namespace RetryPolicy

def never : RetryPolicy := ⟨fun _ _ => false, fun _ => .zero⟩

/-- At most `maxRetries` attempts after the first one, while the failures are worth it. -/
def standard (maxRetries : UInt32) (classifier : Classifier) (wait : UInt32 → Duration) :
    RetryPolicy :=
  ⟨fun outcome attempt => attempt ≤ maxRetries && classifier outcome, wait⟩

def defaultMaxRetries : UInt32 := 3

def defaultBackoff : Backoff := .constant (.ofMillis 100)

end RetryPolicy

end MetricRelay
