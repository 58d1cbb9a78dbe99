import Mathlib.Data.Nat.Find
import Mathlib.Order.Bounds.Basic
import MetricRelay.Delivery.Client

/-!
# Deliveries

A delivery makes attempts as long as the policy asks for another one, all of them with the same
request.  `Client.attempts_eq` tells everything that happens up to the last attempt
(`Client.IsLast`), which alone decides about the result.

There is a request only if the payload can be compressed and the token is valid
(`Client.request_eq_ok`), and the request carries the payload as far as what compresses it can be
undone (`Compressor.IsUndoneBy`).

A result reports a number of attempts (`Client.reported`).  It is the number of requests, unless
the endpoint was reached but did not acknowledge the payload: that is always reported as one
attempt, however many there were before it.
-/

namespace MetricRelay

/-- What a compressor makes of a content is undone to the same content. -/
def Compressor.IsUndoneBy (gzip : Compressor) (gunzip : Bytes → Option Bytes) : Prop :=
  ∀ content member, gzip content = .ok member → gunzip member = some content

/-- The body of a request after its encoding is undone, for a receiver that goes by the header. -/
def Request.content? (r : Request) (gunzip : Bytes → Option Bytes) : Option Bytes :=
  match r.headers.lookup "content-encoding" with
  | none => some r.body
  | some "gzip" => gunzip r.body
  | some _ => none

/-- The request brings a payload to an address. -/
structure Request.Carries (r : Request) (gunzip : Bytes → Option Bytes) (url : String)
    (compresses : Bool) (token contentType : String) (payload : Bytes) : Prop where
  url_eq : r.url = url
  token_mem : ("x-sf-token", token) ∈ r.headers
  agent_mem : ("user-agent", Client.userAgent) ∈ r.headers
  type_mem : ("content-type", contentType) ∈ r.headers
  encoding_iff : ∀ name, ("content-encoding", name) ∈ r.headers ↔
    compresses = true ∧ name = "gzip"
  content_eq : r.content? gunzip = some payload

namespace Client

variable {c : Client} {outcomes : Nat → Outcome}

/-! ### The request -/

section Request

variable {token : String} {payload body : Bytes} (contentType : String)

theorem request_of_uncompressed {reason : String}
    (failed : c.compression.compress payload = .error reason) :
    c.request token contentType payload = .error (.compression reason) := by
  simp only [request, failed]

theorem request_of_invalid (compressed : c.compression.compress payload = .ok body)
    (invalid : isHeaderValue token = false) :
    c.request token contentType payload = .error .invalidToken := by
  simp [request, compressed, invalid]

theorem request_eq_ok (compressed : c.compression.compress payload = .ok body)
    (valid : isHeaderValue token = true) :
    c.request token contentType payload =
      .ok { url := c.url, headers := c.headers token contentType, body } := by
  simp only [request, compressed, if_pos valid]

/-- A request without a body is refused before any attempt. -/
theorem deliver_of_uncompressed {reason : String}
    (failed : c.compression.compress payload = .error reason) :
    c.deliver token contentType payload outcomes =
      { result := some (.error (.compression reason)) } := by
  rw [deliver, request_of_uncompressed contentType failed]

theorem deliver_of_invalid (compressed : c.compression.compress payload = .ok body)
    (invalid : isHeaderValue token = false) :
    c.deliver token contentType payload outcomes = { result := some (.error .invalidToken) } := by
  rw [deliver, request_of_invalid contentType compressed invalid]

/-- The request says how its body is to be undone, and so it brings the payload. -/
theorem carries_of_compress {gzip : Compressor} {gunzip : Bytes → Option Bytes}
    (inverse : gzip.IsUndoneBy gunzip) {compresses : Bool}
    (scheme : c.compression = .ofEnabled gzip compresses)
    (compressed : c.compression.compress payload = .ok body) :
    Request.Carries { url := c.url, headers := c.headers token contentType, body } gunzip c.url
      compresses token contentType payload := by
  rw [scheme] at compressed
  cases compresses with
  | false =>
    have headers_eq : c.headers token contentType =
        [("content-type", contentType), ("user-agent", userAgent), ("x-sf-token", token)] := by
      rw [headers, scheme]
      rfl
    obtain rfl : payload = body := Except.ok.inj compressed
    refine ⟨rfl, ?_, ?_, ?_, fun name => ?_, ?_⟩
    all_goals simp [headers_eq, Request.content?, List.lookup_cons]
  | true =>
    have headers_eq : c.headers token contentType =
        [("content-encoding", "gzip"), ("content-type", contentType), ("user-agent", userAgent),
          ("x-sf-token", token)] := by
      rw [headers, scheme]
      rfl
    have undone : gunzip body = some payload := inverse payload body compressed
    refine ⟨rfl, ?_, ?_, ?_, fun name => ?_, ?_⟩
    all_goals simp [headers_eq, Request.content?, undone]

end Request

/-! ### Attempts -/

/-- Attempt `k` is the last one, counted from attempt `first`: the policy asks for another one
after each attempt before it. -/
structure IsLast (c : Client) (outcomes : Nat → Outcome) (first k : Nat) : Prop where
  le : first ≤ k
  retried : ∀ i, first ≤ i → i < k → c.policy.shouldRetry (outcomes i) i.toUInt32 = true
  final : c.policy.shouldRetry (outcomes k) k.toUInt32 = false

/-- What happens in an attempt that is followed by another one. -/
def retriedAttempt (c : Client) (request : Request) (outcomes : Nat → Outcome) (i : Nat) :
    List Happening :=
  let wait := c.policy.wait i.toUInt32
  [.requested request, .logged (c.retryNote i.toUInt32 (outcomes i) wait),
    .waited i.toUInt32 wait]

/-- What happens in the last attempt. -/
def lastAttempt (c : Client) (request : Request) (outcomes : Nat → Outcome) (k : Nat) :
    List Happening :=
  .requested request ::
    if outcomes k = acknowledged then [.logged (c.successNote k.toUInt32)] else []

theorem IsLast.eq_first {k first : Nat} (h : c.IsLast outcomes first k)
    (final : c.policy.shouldRetry (outcomes first) first.toUInt32 = false) : k = first := by
  by_contra hne
  have := h.retried first (Nat.le_refl _) (Nat.lt_of_le_of_ne h.le (Ne.symm hne))
  rw [final] at this
  cases this

theorem IsLast.later {k first : Nat} (h : c.IsLast outcomes first k)
    (retried : c.policy.shouldRetry (outcomes first) first.toUInt32 = true) :
    c.IsLast outcomes (first + 1) k := by
  refine ⟨?_, fun i hi => h.retried i (Nat.le_of_succ_le hi), h.final⟩
  refine Nat.lt_of_le_of_ne h.le ?_
  rintro rfl
  have := h.final
  rw [retried] at this
  cases this

/-- A policy that stops at some attempt has a last one. -/
theorem exists_isLast {first stop : Nat} (le : first ≤ stop)
    (final : c.policy.shouldRetry (outcomes stop) stop.toUInt32 = false) :
    ∃ k ≤ stop, c.IsLast outcomes first k := by
  have ex : ∃ i, first ≤ i ∧ c.policy.shouldRetry (outcomes i) i.toUInt32 = false :=
    ⟨stop, le, final⟩
  refine ⟨Nat.find ex, Nat.find_min' ex ⟨le, final⟩, (Nat.find_spec ex).1, fun i hi below => ?_,
    (Nat.find_spec ex).2⟩
  by_contra hr
  exact Nat.find_min ex below ⟨hi, by simpa using hr⟩

theorem note_conclude (c : Client) (attempt : UInt32) (bytes : Nat) (outcome : Outcome) :
    c.note attempt outcome (.finished (conclude attempt bytes outcome)) =
      if outcome = acknowledged then [c.successNote attempt] else [] := by
  by_cases ho : outcome = acknowledged
  · subst ho
    rw [conclude_acknowledged, if_pos rfl]
    rfl
  · obtain ⟨e, he⟩ := conclude_of_ne_acknowledged ho attempt bytes
    rw [he, if_neg ho]
    rfl

/-- **All that happens in a delivery that stops.** -/
theorem attempts_eq (request : Request) {first k left : Nat} (h : c.IsLast outcomes first k)
    (counted : k < first + left) :
    c.attempts request outcomes left first =
      { happenings := (List.range' first (k - first)).flatMap (c.retriedAttempt request outcomes) ++
          c.lastAttempt request outcomes k
        result := some (conclude k.toUInt32 request.body.length (outcomes k)) } := by
  induction left generalizing first with
  | zero => exact absurd h.le (Nat.not_le.2 counted)
  | succ left ih =>
    cases hr : c.policy.shouldRetry (outcomes first) first.toUInt32 with
    | true =>
      have later := h.later hr
      -- the first of the attempts is followed by the others
      have split : List.range' first (k - first) =
          first :: List.range' (first + 1) (k - (first + 1)) := by
        have := later.le
        rw [show k - first = k - (first + 1) + 1 by omega, List.range'_succ]
      rw [attempts]
      simp only [judge, hr, if_true]
      rw [ih later (by omega), split]
      simp [retriedAttempt, note]
    | false =>
      obtain rfl := h.eq_first hr
      rw [attempts]
      simp only [judge, hr, Bool.false_eq_true, if_false, note_conclude, Nat.sub_self]
      by_cases ho : outcomes k = acknowledged <;> simp [lastAttempt, ho]

/-! ### Whole deliveries -/

/-- There is one request in each attempt that is followed by another one. -/
theorem requests_retriedAttempts (r : Request) (l : List Nat) :
    (l.flatMap (c.retriedAttempt r outcomes)).filterMap (·.request?) =
      List.replicate l.length r := by
  induction l with
  | nil => rfl
  | cons i l ih =>
    rw [List.flatMap_cons, List.filterMap_append, ih]
    rfl

/-- The client makes one request for each attempt. -/
theorem requests_attempts {r : Request} {first k left : Nat} (h : c.IsLast outcomes first k)
    (counted : k < first + left) :
    (c.attempts r outcomes left first).requests = List.replicate (k - first + 1) r := by
  have last : (c.lastAttempt r outcomes k).filterMap (·.request?) = [r] := by
    unfold lastAttempt
    split <;> rfl
  rw [attempts_eq r h counted, Run.requests, List.filterMap_append, requests_retriedAttempts, last,
    List.length_range', List.replicate_succ']

/-- A delivery with a last attempt has a result. -/
theorem deliver_of_isLast {token : String} {payload body : Bytes}
    (compressed : c.compression.compress payload = .ok body)
    (valid : isHeaderValue token = true) (contentType : String) {k : Nat}
    (h : c.IsLast outcomes 1 k) (counted : k ≤ countable) :
    let r : Request := { url := c.url, headers := c.headers token contentType, body }
    (c.deliver token contentType payload outcomes).requests = List.replicate k r ∧
      c.deliver token contentType payload outcomes =
        { happenings := (List.range' 1 (k - 1)).flatMap (c.retriedAttempt r outcomes) ++
            c.lastAttempt r outcomes k
          result := some (conclude k.toUInt32 body.length (outcomes k)) } := by
  intro r
  have hrun : c.deliver token contentType payload outcomes =
      c.attempts r outcomes countable 1 := by
    simp only [deliver, request_eq_ok contentType compressed valid, r]
  have within : k < 1 + countable := by omega
  refine ⟨?_, ?_⟩
  · rw [hrun, requests_attempts h within, Nat.sub_add_cancel h.le]
  · rw [hrun, attempts_eq r h within]

theorem toNat_toUInt32 {k : Nat} (counted : k ≤ countable) : k.toUInt32.toNat = k :=
  UInt32.toNat_ofNat_of_lt' (Nat.lt_of_le_of_lt counted (by decide))

/-! ### The result -/

section Conclude

variable (attempt : UInt32) (bytes : Nat)

theorem conclude_eq_ok_iff {outcome : Outcome} {d : Delivery} :
    conclude attempt bytes outcome = .ok d ↔ outcome = acknowledged ∧ d = ⟨attempt, bytes⟩ := by
  by_cases ho : outcome = acknowledged
  · subst ho
    simp [conclude_acknowledged, eq_comm]
  · obtain ⟨e, he⟩ := conclude_of_ne_acknowledged ho attempt bytes
    simp [he, ho]

theorem conclude_unacknowledged {body : Bytes} (h : body ≠ acknowledgement) :
    conclude attempt bytes (.ok ⟨200, body⟩) = .error (.unexpectedAcknowledgement body) := by
  simp [conclude, h]

theorem conclude_status {status : Nat} (h : status ≠ 200) (body : Bytes) :
    conclude attempt bytes (.ok ⟨status, body⟩) = .error (.unexpectedStatus attempt status) := by
  simp [conclude, h]

theorem conclude_error (cause : TransportError) :
    conclude attempt bytes (.error cause) = .error (.transport attempt cause) := rfl

end Conclude

/-! ### What a result reports -/

/-- The attempts that a result reports. -/
def reported : Except DeliveryError Delivery → UInt32
  | .ok d => d.attempts
  | .error e => e.attempts

/-- A missing acknowledgement is reported as one attempt, and anything else with the number of
the last one. -/
theorem reported_conclude (attempt : UInt32) (bytes : Nat) (outcome : Outcome) :
    (∃ body, conclude attempt bytes outcome = .error (.unexpectedAcknowledgement body) ∧
      reported (conclude attempt bytes outcome) = 1) ∨
    (∀ body, conclude attempt bytes outcome ≠ .error (.unexpectedAcknowledgement body)) ∧
      reported (conclude attempt bytes outcome) = attempt := by
  rcases outcome with cause | ⟨status, body⟩
  · exact .inr ⟨nofun, rfl⟩
  · by_cases hs : status = 200
    · subst hs
      by_cases hb : body = acknowledgement
      · subst hb
        exact .inr ⟨nofun, rfl⟩
      · rw [conclude_unacknowledged attempt bytes hb]
        exact .inl ⟨body, rfl, rfl⟩
    · rw [conclude_status attempt bytes hs]
      exact .inr ⟨nofun, rfl⟩

/-- **What a delivery reports.**  If the policy stops, there is a result.  Without a compressed
payload or a valid token it reports no attempt, and there was no request.  The number of attempts
that it reports is that of the requests, unless an acknowledgement is missing after more requests
than one. -/
theorem reported_eq_iff
    (stops : ∃ i, 1 ≤ i ∧ i ≤ countable ∧ c.policy.shouldRetry (outcomes i) i.toUInt32 = false)
    (token contentType : String) (payload : Bytes) :
    let run := c.deliver token contentType payload outcomes
    ∃ r, run.result = some r ∧
      ((∃ reason, c.compression.compress payload = .error reason) ∨ isHeaderValue token = false →
        (reported r).toNat = 0 ∧ run.requests = []) ∧
      ((reported r).toNat = run.requests.length ↔
        ∀ body, r = .error (.unexpectedAcknowledgement body) → run.requests.length = 1) := by
  intro run
  cases compressed : c.compression.compress payload with
  | error reason =>
    have hr : run = { result := some (.error (.compression reason)) } :=
      deliver_of_uncompressed contentType compressed
    rw [hr]
    exact ⟨_, rfl, fun _ => ⟨rfl, rfl⟩, fun _ => nofun, fun _ => rfl⟩
  | ok content =>
    cases valid : isHeaderValue token with
    | false =>
      have hr : run = { result := some (.error .invalidToken) } :=
        deliver_of_invalid contentType compressed valid
      rw [hr]
      exact ⟨_, rfl, fun _ => ⟨rfl, rfl⟩, fun _ => nofun, fun _ => rfl⟩
    | true =>
      obtain ⟨i, positive, bound, final⟩ := stops
      obtain ⟨k, hk, last⟩ := exists_isLast positive final
      have counted : k ≤ countable := Nat.le_trans hk bound
      obtain ⟨requests, hrun⟩ := deliver_of_isLast compressed valid contentType last counted
      have count : run.requests.length = k := by rw [requests, List.length_replicate]
      have result : run.result = some (conclude k.toUInt32 content.length (outcomes k)) :=
        congrArg Run.result hrun
      refine ⟨_, result, fun none_made => ?_, ?_⟩
      · rcases none_made with ⟨_, failed⟩ | invalid
        · cases failed
        · cases invalid
      rw [count]
      obtain ⟨body, hc, one⟩ | ⟨hc, all⟩ :=
        reported_conclude k.toUInt32 content.length (outcomes k)
      · rw [one, hc]
        exact ⟨fun h _ _ => h.symm, fun h => (h body rfl).symm⟩
      · rw [all, toNat_toUInt32 counted]
        exact ⟨fun _ body h => absurd h (hc body), fun _ => rfl⟩

/-- Retries failures that may pass, three times and always after the same wait. -/
def sample (compression : Compression) : Client where
  url := "http://localhost:8080/v2/datapoint"
  policy := .standard RetryPolicy.defaultMaxRetries .transient RetryPolicy.defaultBackoff.wait
  compression := compression

/-- The endpoint is not available at first. -/
def unavailableThen (later : Outcome) (attempt : Nat) : Outcome :=
  if attempt = 1 then .ok ⟨503, []⟩ else later

theorem reported_eq_iff_sample :
    let run := (sample .none).deliver "t" "application/json" [0x70] (unavailableThen acknowledged)
    run.requests.length = 2 ∧
      ∃ r, run.result = some r ∧ (reported r).toNat = run.requests.length := by
  have stops : ∃ i, 1 ≤ i ∧ i ≤ countable ∧
      (sample .none).policy.shouldRetry (unavailableThen acknowledged i) i.toUInt32 = false :=
    ⟨2, by decide, by decide, by decide⟩
  obtain ⟨r, hr, -, h⟩ := reported_eq_iff stops "t" "application/json" [0x70]
  have delivered : ((sample .none).deliver "t" "application/json" [0x70]
      (unavailableThen acknowledged)).result = some (.ok ⟨2, 1⟩) := by decide
  refine ⟨by decide, r, hr, h.2 fun body hb => ?_⟩
  rw [delivered, hb] at hr
  cases hr

/-- The second answer is no acknowledgement, and one attempt is reported. -/
theorem reported_ne_of_missing_acknowledgement :
    let run := (sample .none).deliver "t" "application/json" [0x70]
      (unavailableThen (.ok ⟨200, [0x4F, 0x4B]⟩))
    run.requests.length = 2 ∧ run.result.map reported = some 1 := by
  decide

/-! ### The standard policy -/

section Standard

variable {maxRetries : UInt32} {classifier : Classifier} {wait : UInt32 → Duration}

/-- The standard policy gives up after so many retries, or when the classifier does. -/
theorem shouldRetry_standard {i : Nat} (counted : i ≤ countable) (outcome : Outcome) :
    (RetryPolicy.standard maxRetries classifier wait).shouldRetry outcome i.toUInt32 = false ↔
      maxRetries.toNat < i ∨ classifier outcome = false := by
  have hi : i.toUInt32 ≤ maxRetries ↔ i ≤ maxRetries.toNat := by
    rw [UInt32.le_iff_toNat_le, toNat_toUInt32 counted]
  simp only [RetryPolicy.standard, Bool.and_eq_false_iff, decide_eq_false_iff_not, hi, Nat.not_le]

theorem IsLast.isLeast {k : Nat} (h : c.IsLast outcomes 1 k) (counted : k ≤ countable)
    (standard : c.policy = .standard maxRetries classifier wait) :
    IsLeast {i | 1 ≤ i ∧ (maxRetries.toNat < i ∨ classifier (outcomes i) = false)} k := by
  constructor
  · have final := h.final
    rw [standard] at final
    exact ⟨h.le, (shouldRetry_standard counted _).1 final⟩
  · rintro i ⟨positive, stops⟩
    by_contra below
    have hi : i ≤ countable := by omega
    have := h.retried i positive (by omega)
    rw [standard, (shouldRetry_standard hi _).2 stops] at this
    cases this

end Standard

/-- **Deliveries under the standard policy.**  The payload is compressed once, if compression is on.

- With a body and a valid token there are attempts up to the first one that exceeds the number of
  retries or has an outcome that the classifier gives up on.  They all have the same request, which
  carries the payload.  After each attempt but the last one there is one note and the wait for this
  attempt.  The last outcome alone decides about the result, which is a success for the
  acknowledgement only.
- Without a valid token, and also if the compressor fails, there is no request, and the result
  tells why. -/
theorem deliver_standard {maxRetries : UInt32} (few : maxRetries.toNat < UInt32.size - 1)
    {gzip : Compressor} {gunzip : Bytes → Option Bytes} (inverse : gzip.IsUndoneBy gunzip)
    (classifier : Classifier) (wait : UInt32 → Duration) (url : String) (compresses : Bool)
    (token contentType : String) (payload : Bytes) (outcomes : Nat → Outcome) :
    let compression : Compression := .ofEnabled gzip compresses
    let c : Client := { url, policy := .standard maxRetries classifier wait, compression }
    let run := c.deliver token contentType payload outcomes
    (∀ body, compression.compress payload = .ok body → isHeaderValue token = true → ∃ k request,
      IsLeast {i | 1 ≤ i ∧ (maxRetries.toNat < i ∨ classifier (outcomes i) = false)} k ∧
      k ≤ maxRetries.toNat + 1 ∧
      request.body = body ∧
      request.Carries gunzip url compresses token contentType payload ∧
      run.requests = List.replicate k request ∧
      run.happenings =
        (List.range' 1 (k - 1)).flatMap (fun i =>
          [.requested request,
            .logged (c.retryNote i.toUInt32 (outcomes i) (wait i.toUInt32)),
            .waited i.toUInt32 (wait i.toUInt32)]) ++
        .requested request ::
          (if outcomes k = acknowledged then [.logged (c.successNote k.toUInt32)] else []) ∧
      (∀ d, run.result = some (.ok d) ↔
        outcomes k = .ok ⟨200, acknowledgement⟩ ∧ d = ⟨k.toUInt32, request.body.length⟩) ∧
      (∀ body, outcomes k = .ok ⟨200, body⟩ → body ≠ acknowledgement →
        run.result = some (.error (.unexpectedAcknowledgement body))) ∧
      (∀ status body, outcomes k = .ok ⟨status, body⟩ → status ≠ 200 →
        run.result = some (.error (.unexpectedStatus k.toUInt32 status))) ∧
      ∀ cause, outcomes k = .error cause →
        run.result = some (.error (.transport k.toUInt32 cause))) ∧
    (∀ body, compression.compress payload = .ok body → isHeaderValue token = false →
      run.result = some (.error .invalidToken) ∧ run.requests = []) ∧
    (compresses = false → ∃ body, compression.compress payload = .ok body) ∧
    ∀ reason, compression.compress payload = .error reason →
      run.result = some (.error (.compression reason)) ∧ run.requests = [] := by
  intro compression c run
  refine ⟨fun body compressed valid => ?_, fun body compressed invalid => ?_, fun off => ?_,
    fun reason failed => ?_⟩
  · have counted : maxRetries.toNat + 1 ≤ countable := few
    have final : c.policy.shouldRetry (outcomes (maxRetries.toNat + 1))
        (maxRetries.toNat + 1).toUInt32 = false :=
      (shouldRetry_standard counted _).2 (.inl (Nat.lt_succ_self _))
    obtain ⟨k, hk, last⟩ := exists_isLast (Nat.le_add_left 1 _) final
    have bound : k ≤ countable := Nat.le_trans hk counted
    obtain ⟨requests, hrun⟩ := deliver_of_isLast compressed valid contentType last bound
    have result : run.result = some (conclude k.toUInt32 body.length (outcomes k)) :=
      congrArg Run.result hrun
    refine ⟨k, _, last.isLeast bound rfl, hk, rfl,
      carries_of_compress contentType inverse rfl compressed, requests,
      congrArg Run.happenings hrun, fun d => ?_, fun body ho hb => ?_, fun status body ho hs => ?_,
      fun cause ho => ?_⟩
    · rw [result, Option.some_inj]
      exact conclude_eq_ok_iff _ _
    · rw [result, ho, conclude_unacknowledged _ _ hb]
    · rw [result, ho, conclude_status _ _ hs]
    · rw [result, ho, conclude_error]
  · have hr : run = { result := some (.error .invalidToken) } :=
      deliver_of_invalid contentType compressed invalid
    rw [hr]
    exact ⟨rfl, rfl⟩
  · subst off
    exact ⟨payload, rfl⟩
  · have hr : run = { result := some (.error (.compression reason)) } :=
      deliver_of_uncompressed contentType failed
    rw [hr]
    exact ⟨rfl, rfl⟩

/-- The gzip member of an empty object. -/
def sampleMember : Bytes :=
  [0x1F, 0x8B, 8, 0, 0, 0, 0, 0, 0, 0xFF, 0xAB, 0xAE, 5, 0, 0x43, 0xBF, 0xA6, 0xA3, 2, 0, 0, 0]

/-- A compressor for nothing but an empty object. -/
def sampleGzip : Compressor := fun content =>
  if content = [0x7B, 0x7D] then .ok sampleMember else .error "unexpected content"

def sampleGunzip : Bytes → Option Bytes := fun member =>
  if member = sampleMember then some [0x7B, 0x7D] else none

theorem sampleGzip_isUndoneBy : sampleGzip.IsUndoneBy sampleGunzip := by
  intro content member compressed
  unfold sampleGzip at compressed
  split at compressed
  · rename_i object
    cases compressed
    rw [object]
    rfl
  · cases compressed

theorem deliver_standard_sample :
    let c := sample (.gzip sampleGzip)
    RetryPolicy.defaultMaxRetries.toNat < UInt32.size - 1 ∧
      sampleGzip.IsUndoneBy sampleGunzip ∧ isHeaderValue "secret" = true ∧
      (∃ request : Request,
        request.Carries sampleGunzip c.url true "secret" "application/json" [0x7B, 0x7D] ∧
        request.body = sampleMember ∧
        (c.deliver "secret" "application/json" [0x7B, 0x7D]
          (unavailableThen acknowledged)).requests = [request, request]) ∧
      (c.deliver "secret" "application/json" [0x5B, 0x5D] fun _ => acknowledged).result =
        some (.error (.compression "unexpected content")) := by
  intro c
  have few : RetryPolicy.defaultMaxRetries.toNat < UInt32.size - 1 := by decide
  have valid : isHeaderValue "secret" = true := by decide
  have standard := deliver_standard few sampleGzip_isUndoneBy .transient
    RetryPolicy.defaultBackoff.wait c.url true "secret" "application/json"
  obtain ⟨k, request, ⟨⟨positive, stops⟩, least⟩, -, body_eq, carries, requests, -⟩ :=
    (standard [0x7B, 0x7D] (unavailableThen acknowledged)).1 sampleMember rfl valid
  have le : k ≤ 2 := least ⟨by decide, .inr rfl⟩
  have ne : k ≠ 1 := by
    rintro rfl
    revert stops
    decide
  obtain rfl : k = 2 := by omega
  exact ⟨few, sampleGzip_isUndoneBy, valid, ⟨request, carries, body_eq, requests⟩,
    ((standard [0x5B, 0x5D] fun _ => acknowledged).2.2.2 "unexpected content" rfl).1⟩

end Client
end MetricRelay
