import MetricRelay.Number.Decimal

/-!
# The fewest digits that read back

`Binary64.shortest` selects, for a finite non-zero magnitude, a decimal with the fewest digits
among those that round to it, and of two such decimals the closer one.  The decimals that round
to a magnitude `m * 2 ^ q` form an interval around it that reaches half way to each neighbour
and contains its ends exactly when `m` is even (`Binary64.readsBack`).  The search walks the
grids of one digit, two digits, and so on; if a grid has a point in the interval, then so has
one of the two points next to the magnitude itself.
-/

namespace MetricRelay

/-- Which of two equally close candidates is taken. -/
inductive Tie where
  | toEven
  | upward
deriving DecidableEq, Repr

namespace Binary64

/-- Compares `a * 10 ^ i` with `n * 2 ^ j`. -/
def compareScaled (a : Nat) (i : Int) (n : Nat) (j : Int) : Ordering :=
  compare (a * pow10 i * pow2 (-j)) (n * pow2 j * pow10 (-i))

/-- The lower end of the interval of a magnitude, in units of `2 ^ (q - 2)`. -/
def lowerEnd (x : Binary64) : Nat :=
  if x.isNarrowBelow then 4 * x.significand - 1 else 4 * x.significand - 2

/-- The upper end of the interval of a magnitude, in units of `2 ^ (q - 2)`. -/
def upperEnd (x : Binary64) : Nat := 4 * x.significand + 2

/-- The decimal lies among the numbers that round to the magnitude. -/
def readsBack (x : Binary64) (d : Decimal) : Bool :=
  let closed := x.significand % 2 == 0
  let low := compareScaled d.digits d.exponent x.lowerEnd (x.exponent - 2)
  let high := compareScaled d.digits d.exponent x.upperEnd (x.exponent - 2)
  (low == .gt || closed && low == .eq) && (high == .lt || closed && high == .eq)

/-- The least `k` with the magnitude below `10 ^ k`, found next to an estimate from the binary
logarithm. -/
def decimalPosition (x : Binary64) : Int :=
  let estimate := ((x.significand.log2 : Int) + x.exponent) * 1233 / 4096
  if isBelow estimate then estimate
  else if isBelow (estimate + 1) then estimate + 1
  else estimate + 2
where
  isBelow (k : Int) : Bool := compareScaled 1 k x.significand x.exponent == .gt

/-- The largest multiple of `10 ^ e` that is not above the magnitude, as a count. -/
def floorOnGrid (x : Binary64) (e : Int) : Nat :=
  x.significand * pow2 x.exponent * pow10 (-e) / (pow10 e * pow2 (-x.exponent))

/-- Of the two grid points next to the magnitude, the one that reads back; the closer one when
both do. -/
def onGrid? (tie : Tie) (x : Binary64) (e : Int) : Option Decimal :=
  let n := x.floorOnGrid e
  let below : Decimal := ⟨n, e⟩
  let above : Decimal := ⟨n + 1, e⟩
  match x.readsBack below, x.readsBack above with
  | false, false => none
  | true, false => some below
  | false, true => some above
  | true, true =>
    match compareScaled (2 * n + 1) e (2 * x.significand) x.exponent with
    | .gt => some below
    | .lt => some above
    | .eq => match tie with
      | .toEven => some (if n % 2 = 0 then below else above)
      | .upward => some above

/-- The exact value of the magnitude, which reads back whatever the number of its digits. -/
def exactDecimal (x : Binary64) : Decimal :=
  if 0 ≤ x.exponent then ⟨x.significand * pow2 x.exponent, 0⟩
  else ⟨x.significand * Nat.pow 5 (-x.exponent).toNat, x.exponent⟩

/-- A decimal of fewest digits that rounds to the magnitude, without trailing zeros. -/
def shortest (tie : Tie) (x : Binary64) : Decimal :=
  if x.magnitude = 0 then ⟨0, 0⟩
  else
    let k := x.decimalPosition
    let grid? := (List.range 17).findSome? fun n => onGrid? tie x (k - (n + 1 : Nat))
    (grid?.getD x.exactDecimal).strip

end Binary64

end MetricRelay
