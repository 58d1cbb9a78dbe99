/-!
# Powers for scaling

A number is scaled by `b ^ k` for an integer `k` by multiplying with the power if `k` is
positive and by dividing by the power of `-k` if it is negative.  Of the two powers here one is
always one, so a ratio is scaled by multiplying the numerator with the first and the denominator
with the second.
-/

namespace MetricRelay

/-- The power of two with an exponent, or one if the exponent is negative. -/
def pow2 (k : Int) : Nat := Nat.pow 2 k.toNat

/-- The power of ten with an exponent, or one if the exponent is negative. -/
def pow10 (k : Int) : Nat := Nat.pow 10 k.toNat

end MetricRelay
