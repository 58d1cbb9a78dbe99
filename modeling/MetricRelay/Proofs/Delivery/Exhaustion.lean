import MetricRelay.Proofs.Delivery.Client
import MetricRelay.Sender.Options

/-!
# Deliveries that run out of numbers

Attempts are numbered in 32 bits, and the greatest number of retries that can be configured is
the greatest of these numbers.  With any lower limit there is a number above it, at which the
standard policy gives up.  With this one there is not: if the classifier never gives up either,
another attempt is asked for after the last one that has a number, and the delivery has no
result (`Client.deliver_exhausted_iff`).
-/

namespace MetricRelay
namespace Client

variable {c : Client} {outcomes : Nat → Outcome}

/-- The policy asks for another attempt after every one that has a number. -/
def Exhausts (c : Client) (outcomes : Nat → Outcome) : Prop :=
  ∀ i, 1 ≤ i → i ≤ countable → c.policy.shouldRetry (outcomes i) i.toUInt32 = true

/-- If each attempt is followed by another one, the numbers are used up without a result. -/
theorem attempts_of_retried (request : Request) {first left : Nat}
    (retried : ∀ i, first ≤ i → i < first + left →
      c.policy.shouldRetry (outcomes i) i.toUInt32 = true) :
    c.attempts request outcomes left first =
      { happenings := (List.range' first left).flatMap (c.retriedAttempt request outcomes)
        result := none } := by
  induction left generalizing first with
  | zero => rfl
  | succ left ih =>
    have now := retried first (Nat.le_refl _) (by omega)
    have later := @ih (first + 1) fun i hi below => retried i (by omega) (by omega)
    rw [attempts]
    simp only [judge, now, if_true]
    rw [later, List.range'_succ]
    simp [retriedAttempt, note]

section Sent

variable {token : String} {payload body : Bytes}
  (compressed : c.compression.compress payload = .ok body) (valid : isHeaderValue token = true)
  (contentType : String)
include compressed valid

theorem deliver_of_exhausts (h : c.Exhausts outcomes) :
    (c.deliver token contentType payload outcomes).result = none ∧
      (c.deliver token contentType payload outcomes).requests.length = countable := by
  let r : Request := { url := c.url, headers := c.headers token contentType, body }
  have run_eq : c.deliver token contentType payload outcomes =
      { happenings := (List.range' 1 countable).flatMap (c.retriedAttempt r outcomes)
        result := none } := by
    simp only [deliver, request_eq_ok contentType compressed valid]
    exact attempts_of_retried r fun i positive below => h i positive (by omega)
  rw [run_eq]
  refine ⟨rfl, ?_⟩
  rw [Run.requests, requests_retriedAttempts, List.length_replicate, List.length_range']

/-- A policy that gives up at some number ends the delivery. -/
theorem deliver_of_not_exhausts (h : ¬c.Exhausts outcomes) :
    ∃ k, c.IsLast outcomes 1 k ∧ k ≤ countable ∧
      (c.deliver token contentType payload outcomes).requests.length = k ∧
      (c.deliver token contentType payload outcomes).result ≠ none := by
  simp only [Exhausts, not_forall, Bool.not_eq_true] at h
  obtain ⟨i, positive, counted, final⟩ := h
  obtain ⟨k, hk, last⟩ := exists_isLast positive final
  have bound : k ≤ countable := Nat.le_trans hk counted
  obtain ⟨requests, run_eq⟩ := deliver_of_isLast compressed valid contentType last bound
  refine ⟨k, last, bound, by rw [requests, List.length_replicate], ?_⟩
  rw [run_eq]
  nofun

end Sent

section Standard

variable {maxRetries : UInt32} {classifier : Classifier} {wait : UInt32 → Duration}
  (standard : c.policy = .standard maxRetries classifier wait)
include standard

/-- Only the greatest limit leaves no number at which the policy gives up. -/
theorem exhausts_standard_iff : c.Exhausts outcomes ↔
    maxRetries.toNat = countable ∧ ∀ i, 1 ≤ i → i ≤ countable → classifier (outcomes i) = true := by
  have limit : maxRetries.toNat ≤ countable := Nat.le_of_lt_succ maxRetries.toNat_lt_size
  have retried (i : Nat) (counted : i ≤ countable) :
      c.policy.shouldRetry (outcomes i) i.toUInt32 = true ↔
        i ≤ maxRetries.toNat ∧ classifier (outcomes i) = true := by
    rw [standard, ← Bool.not_eq_false, shouldRetry_standard counted, not_or, Nat.not_lt,
      Bool.not_eq_false]
  constructor
  · intro h
    have greatest := ((retried countable (Nat.le_refl _)).1 (h countable (by decide) (by omega))).1
    exact ⟨Nat.le_antisymm limit greatest, fun i positive counted =>
      ((retried i counted).1 (h i positive counted)).2⟩
  · rintro ⟨limit_eq, worth⟩ i positive counted
    exact (retried i counted).2 ⟨limit_eq ▸ counted, worth i positive counted⟩

theorem IsLast.le_maxRetries {k : Nat} (last : c.IsLast outcomes 1 k) (counted : k ≤ countable) :
    k ≤ maxRetries.toNat + 1 := by
  by_contra above
  have := (last.isLeast counted standard).2
    (show maxRetries.toNat + 1 ∈ _ from ⟨by omega, .inl (Nat.lt_succ_self _)⟩)
  omega

end Standard

/-- **When a delivery under the standard policy has no end.**  There is never more than one
request in addition to the retries that are allowed.  But there is no result if and only if
there is a request, the limit is the greatest number that an attempt can have and the classifier
finds every outcome worth another attempt; then all numbers have been used up, and the policy
still asks for another attempt. -/
theorem deliver_exhausted_iff (maxRetries : UInt32) (classifier : Classifier)
    (wait : UInt32 → Duration) (url : String) (compression : Compression)
    (token contentType : String) (payload : Bytes) (outcomes : Nat → Outcome) :
    let c : Client := { url, policy := .standard maxRetries classifier wait, compression }
    let run := c.deliver token contentType payload outcomes
    run.requests.length ≤ maxRetries.toNat + 1 ∧
    (run.result = none ↔ (∃ body, compression.compress payload = .ok body) ∧
      isHeaderValue token = true ∧ maxRetries.toNat = countable ∧
      ∀ i, 1 ≤ i → i ≤ countable → classifier (outcomes i) = true) ∧
    (run.result = none → run.requests.length = countable ∧
      c.policy.shouldRetry (outcomes countable) countable.toUInt32 = true) := by
  intro c run
  have exhausts_iff : c.Exhausts outcomes ↔ maxRetries.toNat = countable ∧
      ∀ i, 1 ≤ i → i ≤ countable → classifier (outcomes i) = true := exhausts_standard_iff rfl
  rw [← exhausts_iff]
  cases compressed : compression.compress payload with
  | error reason =>
    have run_eq : run = { result := some (.error (.compression reason)) } :=
      deliver_of_uncompressed contentType compressed
    rw [run_eq]
    exact ⟨Nat.zero_le _, by simp, nofun⟩
  | ok body =>
    cases valid : isHeaderValue token with
    | false =>
      have run_eq : run = { result := some (.error .invalidToken) } :=
        deliver_of_invalid contentType compressed valid
      rw [run_eq]
      exact ⟨Nat.zero_le _, by simp, nofun⟩
    | true =>
      by_cases h : c.Exhausts outcomes
      · obtain ⟨result, requests⟩ := deliver_of_exhausts compressed valid contentType h
        have limit_eq := (exhausts_iff.1 h).1
        refine ⟨?_, iff_of_true result ⟨⟨body, rfl⟩, rfl, h⟩, fun _ => ⟨requests, ?_⟩⟩
        · rw [show run.requests.length = _ from requests]
          omega
        · exact h countable (by decide) (Nat.le_refl _)
      · obtain ⟨k, last, counted, requests, result⟩ :=
          deliver_of_not_exhausts compressed valid contentType h
        refine ⟨?_, iff_of_false result fun exhausts => h exhausts.2.2,
          fun none => absurd none result⟩
        rw [show run.requests.length = _ from requests]
        exact last.le_maxRetries rfl counted

/-- Every outcome is an error of the connection, and the classifier takes all of them. -/
theorem deliver_exhausted_iff_unreachable :
    let c : Client :=
      { url := "http://localhost:9", policy := .standard 4294967295 .everything fun _ => .zero
        compression := .none }
    let run := c.deliver "t" "application/json" [] fun _ => .error (.io "refused")
    run.result = none ∧ run.requests.length = countable := by
  have h := deliver_exhausted_iff 4294967295 .everything (fun _ => .zero)
    "http://localhost:9" .none "t" "application/json" [] fun _ => .error (.io "refused")
  have result := h.2.1.2 ⟨⟨[], rfl⟩, by decide, by decide, fun _ _ _ => rfl⟩
  exact ⟨result, (h.2.2 result).1⟩

/-- **A limit on retries that is no limit.**  The options are valid, and the endpoint is never
available.  After the attempt with the greatest number another one is asked for, and its number
would be zero. -/
theorem exhausted_of_greatest_limit :
    let options : SenderOptions := { defaultSource := "web-1", retry.maxRetries := 4294967295 }
    let c : Client :=
      { url := options.ingestUrl, policy := options.retry.policy, compression := .none }
    let outcomes : Nat → Outcome := fun _ => .ok ⟨503, []⟩
    let run := c.deliver "t" "application/json" [] outcomes
    options.fault? = none ∧ run.result = none ∧ run.requests.length = 4294967295 ∧
      c.policy.shouldRetry (outcomes 4294967295) 4294967295 = true ∧
      (4294967295 : UInt32) + 1 = 0 := by
  intro options c outcomes run
  have h : c.Exhausts outcomes := (exhausts_standard_iff rfl).2 ⟨by decide, fun _ _ _ => by decide⟩
  have valid : isHeaderValue "t" = true := by decide
  have compressed : c.compression.compress [] = .ok [] := rfl
  obtain ⟨result, requests⟩ := deliver_of_exhausts compressed valid "application/json" h
  exact ⟨by decide, result, requests, by decide, by decide⟩

end Client
end MetricRelay
