import MetricRelay.Metric.Point

/-!
# The point buffer

Points wait in a bounded buffer between those who record them and the one consumer that sends
them.  The consumer may look at the next point without taking it: the point then leaves the
channel for a slot of its own (`Buffer.peeked`), which makes room for one more point in the
channel.  What is buffered is the point in the slot, if any, followed by the channel
(`Buffer.contents`).

Points are offered as a unit: all of them are accepted, in order and next to each other, or
none.  What happens when there is no room is the buffer's policy.
-/

namespace MetricRelay

/-- What becomes of points that find no room. -/
inductive OverflowPolicy where
  /-- They are refused. -/
  | reject
  /-- The caller waits for room, which it must not do inside an asynchronous runtime. -/
  | block
deriving DecidableEq, Repr

/-- Why points were refused. -/
inductive EnqueueError where
  | rejected
  | closed
  | blockingInAsyncContext
  | unitTooLarge (size capacity : Nat)
deriving DecidableEq, Repr

def EnqueueError.message : EnqueueError → String
  | .rejected => "Buffer is full."
  | .closed => "Buffer is closed."
  | .blockingInAsyncContext =>
    "Blocking enqueue attempted from within an asynchronous runtime."
  | .unitTooLarge size capacity =>
    s!"Cannot enqueue {size} points as a unit into a buffer with capacity {capacity}."

/-- A bounded buffer of points. -/
structure Buffer where
  capacity : Nat
  policy : OverflowPolicy
  /-- The next point, if the consumer has looked at it. -/
  peeked : Option Point := none
  channel : List Point := []
  isClosed : Bool := false
  /-- There is still someone who could offer points. -/
  hasProducer : Bool := true
deriving DecidableEq, Repr

/-- What becomes of an offer of points. -/
inductive Buffer.Admission where
  | accepted (b : Buffer)
  | refused (e : EnqueueError)
  /-- The caller waits until there is room or the buffer is closed. -/
  | waiting
deriving DecidableEq, Repr

namespace Buffer

/-- The largest capacity that a channel can have: an eighth of the 64-bit range. -/
def maxCapacity : Nat := UInt64.size / 8 - 1

/-- An empty buffer; there is none without capacity or with too much of it. -/
def create? (capacity : Nat) (policy : OverflowPolicy) : Option Buffer :=
  if 0 < capacity ∧ capacity ≤ maxCapacity then some { capacity, policy } else none

/-- The buffered points in the order in which they leave. -/
def contents (b : Buffer) : List Point := b.peeked.toList ++ b.channel

def length (b : Buffer) : Nat := b.contents.length

def isEmpty (b : Buffer) : Bool := b.length == 0

/-- Offers a unit of points.  An empty unit is always accepted, and a unit that could never fit
is refused whatever the state of the buffer. -/
def enqueueAll (b : Buffer) (points : List Point) (inRuntime : Bool) : Admission :=
  if points.isEmpty then .accepted b
  else if b.capacity < points.length then .refused (.unitTooLarge points.length b.capacity)
  else if b.policy = .block ∧ inRuntime then .refused .blockingInAsyncContext
  else if b.isClosed then .refused .closed
  -- a point in the slot takes no room
  else if b.channel.length + points.length ≤ b.capacity then
    .accepted { b with channel := b.channel ++ points }
  else
    match b.policy with
    | .reject => .refused .rejected
    | .block => .waiting

/-- Offers a single point. -/
def enqueue (b : Buffer) (p : Point) (inRuntime : Bool) : Admission := b.enqueueAll [p] inRuntime

/-- Takes points from the front, at most `limit` of them. -/
def drainUpTo (b : Buffer) (limit : Nat) : List Point × Buffer :=
  match limit, b.peeked with
  | 0, _ => ([], b)
  | limit + 1, some p =>
    (p :: b.channel.take limit, { b with peeked := none, channel := b.channel.drop limit })
  | limit + 1, none =>
    (b.channel.take (limit + 1), { b with channel := b.channel.drop (limit + 1) })

/-- Looks at the next point.  The answer is whether there is one, or none as long as one may
still come. -/
def peek (b : Buffer) : Option Bool × Buffer :=
  match b.peeked, b.channel with
  | some _, _ => (some true, b)
  | none, p :: rest => (some true, { b with peeked := some p, channel := rest })
  | none, [] => (if b.isClosed || !b.hasProducer then some false else none, b)

/-- Refuses all later offers. -/
def close (b : Buffer) : Buffer := { b with isClosed := true }

/-- Closes the buffer and drops what is in it; gives the number of points dropped.

The points are received one by one until there is none.  It is assumed that each of these receives
returns: a scheduler that rations them could leave the consumer waiting in the middle, with no one
to renew the ration. -/
def closeAndDiscard (b : Buffer) : Nat × Buffer :=
  (b.length, { b with peeked := none, channel := [], isClosed := true })

/-- Those who offered points are gone. -/
def dropProducer (b : Buffer) : Buffer := { b with hasProducer := false }

/-! ### What the operations do -/

/-- Accepted points stand behind those that were there before. -/
theorem contents_of_enqueueAll {b b' : Buffer} {points : List Point} {inRuntime : Bool}
    (h : b.enqueueAll points inRuntime = .accepted b') :
    b'.contents = b.contents ++ points := by
  unfold enqueueAll at h
  split at h
  · cases h
    simp_all
  · repeat' split at h
    all_goals cases h
    simp [contents]

/-- The points that leave are the first ones. -/
theorem drainUpTo_fst (b : Buffer) (limit : Nat) :
    (b.drainUpTo limit).1 = b.contents.take limit := by
  cases b with
  | mk _ _ peeked channel _ _ => cases limit <;> cases peeked <;> simp [drainUpTo, contents]

/-- The other points stay, in their order. -/
theorem contents_drainUpTo (b : Buffer) (limit : Nat) :
    (b.drainUpTo limit).2.contents = b.contents.drop limit := by
  cases b with
  | mk _ _ peeked channel _ _ => cases limit <;> cases peeked <;> simp [drainUpTo, contents]

/-- Looking at a point takes nothing away. -/
theorem contents_peek (b : Buffer) : b.peek.2.contents = b.contents := by
  cases b with
  | mk _ _ peeked channel _ _ => cases peeked <;> cases channel <;> rfl

theorem length_peek (b : Buffer) : b.peek.2.length = b.length := by
  rw [length, contents_peek, length]

/-- Only an open buffer accepts points, and it stays open. -/
theorem isClosed_of_enqueueAll {b b' : Buffer} {points : List Point} {inRuntime : Bool}
    (h : b.enqueueAll points inRuntime = .accepted b') (hp : points ≠ []) :
    b.isClosed = false ∧ b'.isClosed = false := by
  unfold enqueueAll at h
  rw [if_neg (by simpa using hp)] at h
  repeat' split at h
  all_goals cases h
  simp_all

theorem isClosed_drainUpTo (b : Buffer) (limit : Nat) :
    (b.drainUpTo limit).2.isClosed = b.isClosed := by
  unfold drainUpTo
  split <;> rfl

theorem isClosed_peek (b : Buffer) : b.peek.2.isClosed = b.isClosed := by
  unfold peek
  split <;> rfl

/-- The points that leave are the first ones, and the others stay. -/
theorem contents_eq_append (b : Buffer) (limit : Nat) :
    b.contents = (b.drainUpTo limit).1 ++ (b.drainUpTo limit).2.contents := by
  rw [drainUpTo_fst, contents_drainUpTo, List.take_append_drop]

theorem length_drainUpTo (b : Buffer) (limit : Nat) :
    (b.drainUpTo limit).2.length + (b.drainUpTo limit).1.length = b.length := by
  rw [length, length, b.contents_eq_append limit, List.length_append, Nat.add_comm]

theorem length_drainUpTo_le (b : Buffer) (limit : Nat) :
    (b.drainUpTo limit).1.length ≤ limit := by
  rw [drainUpTo_fst]
  exact List.length_take_le _ _

end Buffer

end MetricRelay
