import MetricRelay.Number.Numeral

/-!
# Metric values

A value is a signed 64-bit integer or a double-precision number, and the two stay apart: an
integer never turns into a number by being sent.  Adding two integers saturates at the ends of
their range; any other sum is one of double-precision numbers.
-/

namespace MetricRelay

/-- What a metric measures, and so how its values are read. -/
inductive Kind where
  /-- The last value stands for the present. -/
  | gauge
  /-- Each value is an increment. -/
  | counter
  /-- Each value is a total since some start. -/
  | cumulativeCounter
deriving DecidableEq, Repr

def Kind.text : Kind → String
  | .gauge => "gauge"
  | .counter => "counter"
  | .cumulativeCounter => "cumulative_counter"

/-- The value of a point. -/
inductive Value where
  | int (i : Int64)
  | float (x : Binary64)
deriving DecidableEq, Repr

/-- The sum of two integers, or the end of their range that it lies beyond. -/
def saturatingAdd (i j : Int64) : Int64 :=
  Int64.ofInt (max Int64.minValue.toInt (min Int64.maxValue.toInt (i.toInt + j.toInt)))

namespace Value

/-- The nearest double-precision number. -/
def toBinary64 : Value → Binary64
  | .int i => Binary64.ofInt i.toInt
  | .float x => x

def isFinite : Value → Bool
  | .int _ => true
  | .float x => x.isFinite

def text : Value → String
  | .int i => intText i.toInt
  | .float x => x.plainText

/-- The sum of two values: of integers if both are, of double-precision numbers otherwise. -/
def accumulate : Value → Value → Value
  | .int i, .int j => .int (saturatingAdd i j)
  | v, w => .float (v.toBinary64.add w.toBinary64)

end Value

end MetricRelay
