import Mathlib.Tactic.SplitIfs
import MetricRelay.Buffer

/-!
# The buffer is a bounded queue

Producers and the consumer use a buffer through a `Buffer.Call` each, and `Buffer.perform` gives
the answer to a call and the buffer after it.  A producer that has to wait makes its call again
later, so a run is any list of calls.

Points leave in the order in which they were accepted (`Buffer.contents_append_accepted`), and
the channel stays within its capacity (`Buffer.IsBounded`).  Only the point that the consumer has
looked at may be there in addition.
-/

namespace MetricRelay
namespace Buffer

/-! ### Calls -/

/-- What producers and the consumer do with a buffer. -/
inductive Call where
  | enqueue (point : Point) (inRuntime : Bool)
  | enqueueAll (points : List Point) (inRuntime : Bool)
  | drainUpTo (limit : Nat)
  | peek
  | close
  | closeAndDiscard
  | dropProducer
deriving DecidableEq

/-- The points that a call offers as a unit. -/
def Call.offered : Call → List Point
  | .enqueue point _ => [point]
  | .enqueueAll points _ => points
  | _ => []

/-- What a call comes to. -/
inductive Answer where
  | accepted
  | refused (e : EnqueueError)
  /-- There is no room now, and the producer will make its call again. -/
  | waiting
  | drained (points : List Point)
  | peeked (found : Option Bool)
  /-- These points were thrown away, of which the consumer only learns the number. -/
  | discarded (number : Nat) (points : List Point)
  | done
deriving DecidableEq

/-- The points that leave the buffer. -/
def Answer.removed : Answer → List Point
  | .drained points => points
  | .discarded _ points => points
  | _ => []

/-- The answer to an offer, and the buffer after it. -/
def Admission.settle (b : Buffer) : Admission → Answer × Buffer
  | .accepted b' => (.accepted, b')
  | .refused e => (.refused e, b)
  | .waiting => (.waiting, b)

/-- The answer to a call, and the buffer after it. -/
def perform (b : Buffer) : Call → Answer × Buffer
  | .enqueue point inRuntime => (b.enqueue point inRuntime).settle b
  | .enqueueAll points inRuntime => (b.enqueueAll points inRuntime).settle b
  | .drainUpTo limit => (.drained (b.drainUpTo limit).1, (b.drainUpTo limit).2)
  | .peek => (.peeked b.peek.1, b.peek.2)
  | .close => (.done, b.close)
  | .closeAndDiscard => (.discarded b.closeAndDiscard.1 b.contents, b.closeAndDiscard.2)
  | .dropProducer => (.done, b.dropProducer)

/-- The buffer after a list of calls. -/
def after (b : Buffer) : List Call → Buffer
  | [] => b
  | c :: rest => (b.perform c).2.after rest

/-- The calls with their answers. -/
def history (b : Buffer) : List Call → List (Call × Answer)
  | [] => []
  | c :: rest => (c, (b.perform c).1) :: (b.perform c).2.history rest

/-- The units that were accepted, each as it was offered. -/
def acceptedUnits (es : List (Call × Answer)) : List (List Point) :=
  es.filterMap fun
    | (c, .accepted) => some c.offered
    | _ => none

/-- The points that have left the buffer, in the order in which they did. -/
def removedPoints (es : List (Call × Answer)) : List Point := es.flatMap (·.2.removed)

/-! ### What becomes of an offer -/

/-- An accepted unit stands behind the channel, where there was room for it. -/
theorem eq_of_enqueueAll {b b' : Buffer} {points : List Point} {inRuntime : Bool}
    (h : b.enqueueAll points inRuntime = .accepted b') :
    b' = { b with channel := b.channel ++ points } ∧
      (points = [] ∨ b.channel.length + points.length ≤ b.capacity) := by
  unfold enqueueAll at h
  split_ifs at h with none large runtime closed room
  · have none : points = [] := by simpa using none
    cases h
    exact ⟨by simp [none], .inl none⟩
  · cases h
    exact ⟨rfl, .inr room⟩
  · cases hp : b.policy <;> simp [hp] at h

section Outside

variable {b : Buffer} {points : List Point} (nonempty : points ≠ [])
include nonempty

/-- Outside of a runtime the policy only matters if there is no room. -/
theorem enqueueAll_outside :
    b.enqueueAll points false =
      if b.capacity < points.length then .refused (.unitTooLarge points.length b.capacity)
      else if b.isClosed then .refused .closed
      else if b.channel.length + points.length ≤ b.capacity then
        .accepted { b with channel := b.channel ++ points }
      else if b.policy = .reject then .refused .rejected
      else .waiting := by
  unfold enqueueAll
  rw [if_neg (by simpa using nonempty)]
  cases b.policy <;> simp

theorem refused_unitTooLarge_iff :
    b.enqueueAll points false = .refused (.unitTooLarge points.length b.capacity) ↔
      b.capacity < points.length := by
  rw [enqueueAll_outside nonempty]
  split_ifs <;> simp_all

theorem refused_closed_iff (fits : points.length ≤ b.capacity) :
    b.enqueueAll points false = .refused .closed ↔ b.isClosed = true := by
  rw [enqueueAll_outside nonempty, if_neg (Nat.not_lt.2 fits)]
  split_ifs <;> simp_all

variable (fits : points.length ≤ b.capacity) (isOpen : b.isClosed = false)
include fits isOpen

theorem accepted_iff :
    (∃ b', b.enqueueAll points false = .accepted b') ↔
      b.channel.length + points.length ≤ b.capacity := by
  rw [enqueueAll_outside nonempty, if_neg (Nat.not_lt.2 fits), if_neg (by simp [isOpen])]
  split_ifs <;> simp_all

theorem refused_rejected_iff (reject : b.policy = .reject) :
    b.enqueueAll points false = .refused .rejected ↔
      ¬b.channel.length + points.length ≤ b.capacity := by
  rw [enqueueAll_outside nonempty, if_neg (Nat.not_lt.2 fits), if_neg (by simp [isOpen])]
  split_ifs <;> simp_all

end Outside

/-- Those who may wait are not turned away for lack of room. -/
theorem not_rejected {b : Buffer} (block : b.policy = .block) (points : List Point)
    (inRuntime : Bool) : b.enqueueAll points inRuntime ≠ .refused .rejected := by
  unfold enqueueAll
  split_ifs <;> simp [block]

/-! ### What a call does -/

/-- An offer adds its points to the channel, if there is room for them, or does nothing. -/
theorem settle_cases (b : Buffer) (points : List Point) (inRuntime : Bool) :
    ((b.enqueueAll points inRuntime).settle b).2 = b ∨
      ((b.enqueueAll points inRuntime).settle b).2 = { b with channel := b.channel ++ points } ∧
        b.channel.length + points.length ≤ b.capacity := by
  cases ha : b.enqueueAll points inRuntime with
  | accepted b' =>
    obtain ⟨rfl, none | room⟩ := eq_of_enqueueAll ha
    · exact .inl (by simp [Admission.settle, none])
    · exact .inr ⟨rfl, room⟩
  | refused e => exact .inl rfl
  | waiting => exact .inl rfl

/-- A refused or waiting call leaves the buffer as it was. -/
theorem perform_snd_of_not_accepted {b : Buffer} {c : Call}
    (h : (∃ e, (b.perform c).1 = .refused e) ∨ (b.perform c).1 = .waiting) :
    (b.perform c).2 = b := by
  -- only offers are answered like this
  have offer (a : Admission) (ha : (∃ e, (a.settle b).1 = .refused e) ∨ (a.settle b).1 = .waiting) :
      (a.settle b).2 = b := by
    cases a with
    | accepted b' => simp [Admission.settle] at ha
    | refused e => rfl
    | waiting => rfl
  cases c with
  | enqueue point inRuntime => exact offer _ h
  | enqueueAll points inRuntime => exact offer _ h
  | _ => simp [perform] at h

theorem contents_settle {b : Buffer} {c : Call} {inRuntime : Bool}
    (hc : b.perform c = (b.enqueueAll c.offered inRuntime).settle b) :
    b.contents ++ (acceptedUnits [(c, (b.perform c).1)]).flatten =
      (b.perform c).1.removed ++ (b.perform c).2.contents := by
  rw [hc]
  cases ha : b.enqueueAll c.offered inRuntime with
  | accepted b' =>
    simp [Admission.settle, acceptedUnits, Answer.removed, contents_of_enqueueAll ha]
  | refused e => simp [Admission.settle, acceptedUnits, Answer.removed]
  | waiting => simp [Admission.settle, acceptedUnits, Answer.removed]

/-- Points enter at the end and leave at the front. -/
theorem contents_perform (b : Buffer) (c : Call) :
    b.contents ++ (acceptedUnits [(c, (b.perform c).1)]).flatten =
      (b.perform c).1.removed ++ (b.perform c).2.contents := by
  cases c with
  | enqueue point inRuntime => exact contents_settle rfl
  | enqueueAll points inRuntime => exact contents_settle rfl
  | drainUpTo limit =>
    simpa [perform, acceptedUnits, Answer.removed] using b.contents_eq_append limit
  | peek => simp [perform, acceptedUnits, Answer.removed, contents_peek]
  | close => simp [perform, acceptedUnits, Answer.removed, close, contents]
  | closeAndDiscard =>
    simp [perform, acceptedUnits, Answer.removed, closeAndDiscard, contents]
  | dropProducer => simp [perform, acceptedUnits, Answer.removed, dropProducer, contents]

/-- What was fixed when the buffer was made, and the bound that it keeps. -/
structure IsBounded (capacity : Nat) (policy : OverflowPolicy) (b : Buffer) : Prop where
  capacity_eq : b.capacity = capacity
  policy_eq : b.policy = policy
  fits : b.channel.length ≤ capacity

variable {capacity : Nat} {policy : OverflowPolicy} {b : Buffer}

theorem IsBounded.settle (h : b.IsBounded capacity policy) (points : List Point)
    (inRuntime : Bool) :
    ((b.enqueueAll points inRuntime).settle b).2.IsBounded capacity policy := by
  rcases b.settle_cases points inRuntime with hs | ⟨hs, room⟩
  · rwa [hs]
  · rw [hs]
    refine ⟨h.capacity_eq, h.policy_eq, ?_⟩
    rw [← h.capacity_eq]
    simpa using room

theorem IsBounded.perform (h : b.IsBounded capacity policy) (c : Call) :
    (b.perform c).2.IsBounded capacity policy := by
  obtain ⟨hc, hp, hf⟩ := h
  cases c with
  | enqueue point inRuntime => exact IsBounded.settle ⟨hc, hp, hf⟩ [point] inRuntime
  | enqueueAll points inRuntime => exact IsBounded.settle ⟨hc, hp, hf⟩ points inRuntime
  | drainUpTo limit =>
    simp only [Buffer.perform, drainUpTo]
    split
    · exact ⟨hc, hp, hf⟩
    · exact ⟨hc, hp, Nat.le_trans (by simp) hf⟩
    · exact ⟨hc, hp, Nat.le_trans (by simp) hf⟩
  | peek =>
    simp only [Buffer.perform, peek]
    split
    · exact ⟨hc, hp, hf⟩
    · rename_i point rest _ hb
      rw [hb] at hf
      exact ⟨hc, hp, Nat.le_of_succ_le hf⟩
    · exact ⟨hc, hp, hf⟩
  | close => exact ⟨hc, hp, hf⟩
  | closeAndDiscard => exact ⟨hc, hp, Nat.zero_le _⟩
  | dropProducer => exact ⟨hc, hp, hf⟩

/-! ### What holds after any calls -/

theorem IsBounded.after (h : b.IsBounded capacity policy) (calls : List Call) :
    (b.after calls).IsBounded capacity policy := by
  induction calls generalizing b with
  | nil => exact h
  | cons c rest ih => exact ih (h.perform c)

theorem contents_append_accepted (b : Buffer) (calls : List Call) :
    b.contents ++ (acceptedUnits (b.history calls)).flatten =
      removedPoints (b.history calls) ++ (b.after calls).contents := by
  induction calls generalizing b with
  | nil => simp [history, after, acceptedUnits, removedPoints]
  | cons c rest ih =>
    have split : acceptedUnits (b.history (c :: rest)) =
        acceptedUnits [(c, (b.perform c).1)] ++ acceptedUnits ((b.perform c).2.history rest) :=
      List.filterMap_append (l := [(c, (b.perform c).1)])
    calc b.contents ++ (acceptedUnits (b.history (c :: rest))).flatten
      _ = b.contents ++ (acceptedUnits [(c, (b.perform c).1)]).flatten ++
          (acceptedUnits ((b.perform c).2.history rest)).flatten := by
        rw [split, List.flatten_append, List.append_assoc]
      _ = (b.perform c).1.removed ++ ((b.perform c).2.contents ++
          (acceptedUnits ((b.perform c).2.history rest)).flatten) := by
        rw [contents_perform, List.append_assoc]
      _ = removedPoints (b.history (c :: rest)) ++ (b.after (c :: rest)).contents := by
        rw [ih]
        simp [history, after, removedPoints]

/-- The point in the slot is all that the channel does not count. -/
theorem length_eq (b : Buffer) : b.length = b.peeked.toList.length + b.channel.length := by
  simp [length, contents]

theorem isBounded_of_create (made : create? capacity policy = some b) :
    b.IsBounded capacity policy ∧ b.contents = [] := by
  unfold create? at made
  split_ifs at made
  cases made
  exact ⟨⟨rfl, rfl, Nat.zero_le _⟩, rfl⟩

/-- **The buffer is a bounded queue.**  After any calls on a new buffer:

* the accepted points, unit by unit, are those that have left the buffer, followed by the point
  in the slot and the channel;
* the channel is within the capacity, and one more point is only there in the slot;
* outside of a runtime, a unit is refused for its size if it could never fit, otherwise because
  the buffer is closed, otherwise, if the policy is to refuse, because the channel has no room
  for it now; a producer that may wait is never refused for that;
* what is refused or has to wait leaves the buffer as it was;
* what is drained are the first points, as many as asked for if there are so many. -/
theorem bounded_queue {b₀ : Buffer} (made : create? capacity policy = some b₀)
    (calls : List Call) :
    let b := b₀.after calls
    let es := b₀.history calls
    (acceptedUnits es).flatten = removedPoints es ++ (b.peeked.toList ++ b.channel) ∧
    (b.channel.length ≤ capacity ∧ b.length ≤ capacity + 1 ∧
      (b.length = capacity + 1 → b.peeked.isSome)) ∧
    (∀ points, points ≠ [] →
      let offer := b.enqueueAll points false
      (offer = .refused (.unitTooLarge points.length capacity) ↔ capacity < points.length) ∧
      (points.length ≤ capacity →
        (offer = .refused .closed ↔ b.isClosed = true) ∧
        (b.isClosed = false → policy = .reject →
          ((∃ b', offer = .accepted b') ↔ points.length ≤ capacity - b.channel.length) ∧
          (offer = .refused .rejected ↔ ¬points.length ≤ capacity - b.channel.length))) ∧
      (policy = .block → offer ≠ .refused .rejected)) ∧
    (∀ c, (∃ e, (b.perform c).1 = .refused e) ∨ (b.perform c).1 = .waiting →
      (b.perform c).2 = b) ∧
    ∀ limit, (b.drainUpTo limit).1 = b.contents.take limit ∧
      (b.drainUpTo limit).1.length = min limit b.length ∧
      (b.drainUpTo limit).2.contents = b.contents.drop limit := by
  intro b es
  obtain ⟨bounded₀, empty⟩ := isBounded_of_create made
  have bounded : b.IsBounded capacity policy := bounded₀.after calls
  have hl := b.length_eq
  have fits := bounded.fits
  refine ⟨?_, ⟨fits, ?_, ?_⟩, ?_, fun c => perform_snd_of_not_accepted, ?_⟩
  · have := contents_append_accepted b₀ calls
    rwa [empty, List.nil_append] at this
  · have : b.peeked.toList.length ≤ 1 := by cases b.peeked <;> simp
    omega
  · intro full
    cases hp : b.peeked with
    | none => simp [hp] at hl; omega
    | some point => rfl
  · intro points nonempty offer
    have room : points.length ≤ capacity - b.channel.length ↔
        b.channel.length + points.length ≤ b.capacity := by
      rw [bounded.capacity_eq]
      omega
    refine ⟨?_, fun small => ⟨?_, fun isOpen reject => ⟨?_, ?_⟩⟩, fun block => ?_⟩
    · rw [← bounded.capacity_eq]
      exact refused_unitTooLarge_iff nonempty
    · exact refused_closed_iff nonempty (bounded.capacity_eq ▸ small)
    · rw [room]
      exact accepted_iff nonempty (bounded.capacity_eq ▸ small) isOpen
    · rw [room]
      exact refused_rejected_iff nonempty (bounded.capacity_eq ▸ small) isOpen
        (bounded.policy_eq.trans reject)
    · exact not_rejected (bounded.policy_eq.trans block) points false
  · intro limit
    refine ⟨b.drainUpTo_fst limit, ?_, b.contents_drainUpTo limit⟩
    rw [drainUpTo_fst, List.length_take]
    rfl

/-- Two points fill the channel, and one more finds room once the first one is looked at. -/
def sampleCalls (point : Int64 → Point) : List Call :=
  [.enqueueAll [point 1, point 2] false, .enqueue (point 3) false, .peek,
    .enqueue (point 3) false, .drainUpTo 2, .close, .enqueue (point 4) false, .closeAndDiscard]

theorem bounded_queue_sample :
    let point (i : Int64) : Point := ⟨"cpu", .gauge, .int i, none, [], 0⟩
    let calls := sampleCalls point
    ∃ b, create? 2 .reject = some b ∧ (b.after (calls.take 4)).length = 3 ∧
      (b.history calls).map (·.2) =
        [.accepted, .refused .rejected, .peeked (some true), .accepted,
          .drained [point 1, point 2], .done, .refused .closed, .discarded 1 [point 3]] ∧
      (acceptedUnits (b.history calls)).flatten =
        removedPoints (b.history calls) ++
          ((b.after calls).peeked.toList ++ (b.after calls).channel) :=
  ⟨_, rfl, by decide, by decide, (@bounded_queue 2 .reject _ rfl _).1⟩

end Buffer
end MetricRelay
