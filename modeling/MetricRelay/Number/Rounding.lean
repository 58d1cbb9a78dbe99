import MetricRelay.Number.Binary64
import MetricRelay.Number.Power

/-!
# The nearest double-precision value

`Binary64.nearest` rounds a ratio of naturals to the closest double-precision value, an exact
tie going to the even significand.  Everything is computed on naturals: the unit in the last
place is found first, then the quotient in that unit is rounded once.  The bits are the unit's
number times the hidden bit plus the rounded quotient, so a quotient that rounds up to the next
power of two carries into the exponent without a case of its own.
-/

namespace MetricRelay

/-- The quotient `num / den` rounded to a natural, an exact half going to the even neighbour. -/
def roundHalfEven (num den : Nat) : Nat :=
  let below := num / den
  let rest := num % den
  if 2 * rest < den then below
  else if den < 2 * rest then below + 1
  else if below % 2 = 0 then below else below + 1

/-- The largest `e` with `2 ^ e ≤ num / den`, for a positive ratio. -/
def floorLog2 (num den : Nat) : Int :=
  let e : Int := (num.log2 : Int) - den.log2
  if den * pow2 e ≤ num * pow2 (-e) then e else e - 1

namespace Binary64

/-- The exponent of the unit in the last place at the ratio `num / den`. -/
def unitExponent (num den : Nat) : Int := max (-1074) (floorLog2 num den - 52)

/-- The ratio `num / den`, counted in units of `2 ^ q` and rounded. -/
def inUnits (num den : Nat) (q : Int) : Nat :=
  roundHalfEven (num * pow2 (-q)) (den * pow2 q)

/-- The magnitude bits of the value nearest to `num / den`; a ratio beyond the largest finite
value gives infinity. -/
def nearestMagnitude (num den : Nat) : Nat :=
  if num = 0 then 0
  else
    let q := unitExponent num den
    min (inUnits num den q + (q + 1074).toNat * hiddenBit) infinityBits

/-- The value nearest to plus or minus `num / den`. -/
def nearest (negative : Bool) (num den : Nat) : Binary64 :=
  ofMagnitude negative (nearestMagnitude num den)

/-- The value nearest to an integer. -/
def ofInt (i : Int) : Binary64 := nearest (i < 0) i.natAbs 1

end Binary64

end MetricRelay
