/-!
# Counters of a sender

What became of the points that were offered to a sender.  A point that was accepted and that is
in none of the other counts is pending.

Counts are natural numbers here.  A counter of 64 bits shows the same as long as the count is below
`2 ^ 64`, and its remainder from then on.
-/

namespace MetricRelay

structure Stats where
  enqueued : Nat := 0
  rejected : Nat := 0
  sent : Nat := 0
  dropped : Nat := 0
  lost : Nat := 0
  batchesSent : Nat := 0
  batchesFailed : Nat := 0
  bytesSent : Nat := 0
deriving DecidableEq, Repr

namespace Stats

/-- The points that were accepted and of which nothing has become yet. -/
def pending (s : Stats) : Nat := s.enqueued - s.sent - s.dropped - s.lost

def accept (s : Stats) (points : Nat) : Stats := { s with enqueued := s.enqueued + points }

def reject (s : Stats) (points : Nat) : Stats := { s with rejected := s.rejected + points }

/-- A batch was acknowledged. -/
def send (s : Stats) (points bytes : Nat) : Stats :=
  { s with sent := s.sent + points, batchesSent := s.batchesSent + 1
           bytesSent := s.bytesSent + bytes }

/-- A batch was given up. -/
def drop (s : Stats) (points : Nat) : Stats :=
  { s with dropped := s.dropped + points, batchesFailed := s.batchesFailed + 1 }

/-- Points were left when the sender stopped. -/
def lose (s : Stats) (points : Nat) : Stats := { s with lost := s.lost + points }

end Stats

end MetricRelay
