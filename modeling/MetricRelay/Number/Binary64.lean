/-!
# Double-precision values as bit patterns

A metric value may be any of the 2^64 double-precision patterns, and a pattern that is not a
number keeps its payload while it travels through an encoding.  So a value is its pattern:
equality is equality of bits, and the arithmetic of the machine is reached through
`Binary64.toFloat` only where two values are combined.
-/

namespace MetricRelay

/-- A double-precision value, given by its 64 bits. -/
structure Binary64 where
  bits : UInt64
deriving DecidableEq, Repr, Inhabited

namespace Binary64

/-- The bit of the sign, above those of the magnitude. -/
def signBit : Nat := 0x8000000000000000

/-- The bit that the significand of a normal value has besides its 52 stored bits. -/
def hiddenBit : Nat := 0x10000000000000

/-- The bits of positive infinity, the first pattern above every finite magnitude. -/
def infinityBits : Nat := 0x7FF0000000000000

/-- The bits without the sign: magnitudes are ordered as these numbers are. -/
def magnitude (x : Binary64) : Nat := x.bits.toNat % signBit

def isNegative (x : Binary64) : Bool := signBit ≤ x.bits.toNat

def isFinite (x : Binary64) : Bool := x.magnitude < infinityBits

def isInfinite (x : Binary64) : Bool := x.magnitude == infinityBits

def isNaN (x : Binary64) : Bool := infinityBits < x.magnitude

/-- The value with the given sign and magnitude bits. -/
def ofMagnitude (negative : Bool) (magnitude : Nat) : Binary64 :=
  ⟨UInt64.ofNat (if negative then signBit + magnitude else magnitude)⟩

def zero : Binary64 := ⟨0⟩

def infinity (negative : Bool) : Binary64 := ofMagnitude negative infinityBits

/-- The pattern that arithmetic gives when there is no result. -/
def nan : Binary64 := ⟨0x7FF8000000000000⟩

/-- The significand `m` of a finite magnitude `m * 2 ^ q`. -/
def significand (x : Binary64) : Nat :=
  if x.magnitude < hiddenBit then x.magnitude else hiddenBit + x.magnitude % hiddenBit

/-- The exponent `q` of a finite magnitude `m * 2 ^ q`. -/
def exponent (x : Binary64) : Int :=
  if x.magnitude < hiddenBit then -1074 else (x.magnitude / hiddenBit : Nat) - 1075

/-- The gap to the next smaller magnitude is half the gap to the next larger one. -/
def isNarrowBelow (x : Binary64) : Bool :=
  x.magnitude % hiddenBit == 0 && 2 * hiddenBit ≤ x.magnitude

/-! ### Machine arithmetic -/

def toFloat (x : Binary64) : Float := Float.ofBits x.bits

def ofFloat (x : Float) : Binary64 := ⟨x.toBits⟩

def add (x y : Binary64) : Binary64 := ofFloat (x.toFloat + y.toFloat)

def sub (x y : Binary64) : Binary64 := ofFloat (x.toFloat - y.toFloat)

/-- Equality as numbers: both zeros are equal, and nothing equals a value that is no number. -/
def numEq (x y : Binary64) : Bool := x.toFloat == y.toFloat

end Binary64

end MetricRelay
