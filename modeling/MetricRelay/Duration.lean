/-!
# Durations

A duration is a number of seconds and a number of nanoseconds below one second.
`Duration.totalNanos` reads it as one number.  Multiplying carries whole seconds over and stops
at the longest duration.
-/

namespace MetricRelay

/-- The nanoseconds of one second. -/
def nanosPerSecond : Nat := 1000000000

structure Duration where
  secs : UInt64
  nanos : UInt32
  nanos_lt : nanos.toNat < nanosPerSecond := by decide
deriving DecidableEq, Repr

namespace Duration

def zero : Duration := ⟨0, 0, by decide⟩

/-- The longest duration. -/
def longest : Duration := ⟨18446744073709551615, 999999999, by decide⟩

/-- The duration in nanoseconds. -/
def totalNanos (d : Duration) : Nat := d.secs.toNat * nanosPerSecond + d.nanos.toNat

/-- The whole milliseconds of a duration. -/
def wholeMillis (d : Duration) : Nat := d.secs.toNat * 1000 + d.nanos.toNat / 1000000

/-- Seconds and nanoseconds, of which whole seconds are carried over; there is no such duration
if the seconds exceed their range. -/
def carry? (secs nanos : Nat) : Option Duration :=
  let total := secs + nanos / nanosPerSecond
  if total < UInt64.size then
    some {
      secs := total.toUInt64
      nanos := (nanos % nanosPerSecond).toUInt32
      nanos_lt := by
        have h : nanos % nanosPerSecond < nanosPerSecond := Nat.mod_lt _ (by decide)
        rw [Nat.toUInt32, UInt32.toNat_ofNat_of_lt' (Nat.lt_trans h (by decide))]
        exact h }
  else none

/-- A number of milliseconds. -/
def ofMillis (ms : UInt64) : Duration :=
  (carry? (ms.toNat / 1000) (ms.toNat % 1000 * 1000000)).getD zero

/-- A multiple of a duration, or the longest duration if that is shorter. -/
def saturatingMul (d : Duration) (n : Nat) : Duration :=
  (carry? (d.secs.toNat * n) (d.nanos.toNat * n)).getD longest

/-- By seconds first, then by nanoseconds. -/
instance : Ord Duration :=
  ⟨fun a b => (compare a.secs b.secs).then (compare a.nanos b.nanos)⟩

protected def max (a b : Duration) : Duration := if compare a b = .gt then a else b

/-- The duration moved into a range whose bounds are in order. -/
def clamp (d least greatest : Duration) : Duration :=
  if compare d least = .lt then least
  else if compare d greatest = .gt then greatest
  else d

/-- Decimal digits behind a point, without trailing zeros. -/
def fractionText (width n : Nat) : List Char :=
  let digits := Nat.toDigits 10 n
  let padded := List.replicate (width - digits.length) '0' ++ digits
  match (padded.reverse.dropWhile (· = '0')).reverse with
  | [] => []
  | shown => '.' :: shown

/-- A duration in the largest unit of which it has a whole one. -/
def text (d : Duration) : String :=
  let inUnit (whole width fraction : Nat) (unit : String) :=
    String.ofList (Nat.toDigits 10 whole ++ fractionText width fraction) ++ unit
  let n := d.nanos.toNat
  if 0 < d.secs.toNat then inUnit d.secs.toNat 9 n "s"
  else if 1000000 ≤ n then inUnit (n / 1000000) 6 (n % 1000000) "ms"
  else if 1000 ≤ n then inUnit (n / 1000) 3 (n % 1000) "µs"
  else inUnit n 0 0 "ns"

end Duration

end MetricRelay
