import MetricRelay.Number.Rounding

/-!
# Decimal numbers

A decimal is a natural number of digits scaled by a power of ten.  `Decimal.toBinary64` reads
one: the exact value is rounded once, to nearest, so a decimal of any length is read correctly.
The scale may come from outside and be arbitrarily large; a decimal whose leading digit stands
far beyond the range is settled without computing the power.
-/

namespace MetricRelay

/-- The digits of a natural number in base ten, the leading one first; zero has one digit. -/
def decimalDigits (n : Nat) : List Nat :=
  go (n.log2 + 1) n []
where
  /-- A number below `2 ^ fuel` is used up before the fuel. -/
  go : Nat → Nat → List Nat → List Nat
    | 0, _, acc => acc
    | fuel + 1, n, acc => if n < 10 then n :: acc else go fuel (n / 10) (n % 10 :: acc)

/-- The number that a list of digits, the leading one first, stands for. -/
def ofDigits (ds : List Nat) : Nat := ds.foldl (fun n d => 10 * n + d) 0

/-- The number `digits * 10 ^ exponent`. -/
structure Decimal where
  digits : Nat
  exponent : Int
deriving DecidableEq, Repr, Inhabited

namespace Decimal

/-- The numerator of a decimal written as a ratio of naturals. -/
def numerator (d : Decimal) : Nat := d.digits * pow10 d.exponent

/-- The denominator of a decimal written as a ratio of naturals. -/
def denominator (d : Decimal) : Nat := pow10 (-d.exponent)

/-- The position of the leading digit: a non-zero decimal lies in `[10 ^ (p - 1), 10 ^ p)`. -/
def leadingPosition (d : Decimal) : Int := (decimalDigits d.digits).length + d.exponent

/-- The double-precision value nearest to a decimal with the given sign.  No value above
`10 ^ 310` is finite, and everything below `10 ^ (-330)` rounds to zero. -/
def toBinary64 (negative : Bool) (d : Decimal) : Binary64 :=
  if d.digits = 0 then Binary64.ofMagnitude negative 0
  else if 310 < d.leadingPosition then Binary64.infinity negative
  else if d.leadingPosition < -330 then Binary64.ofMagnitude negative 0
  else Binary64.nearest negative d.numerator d.denominator

/-- The same number without trailing zero digits. -/
def strip (d : Decimal) : Decimal :=
  go (d.digits.log2 + 1) d.digits d.exponent
where
  /-- A number below `2 ^ fuel` is used up before the fuel. -/
  go : Nat → Nat → Int → Decimal
    | 0, n, e => ⟨n, e⟩
    | fuel + 1, n, e => if n ≠ 0 ∧ n % 10 = 0 then go fuel (n / 10) (e + 1) else ⟨n, e⟩

end Decimal

end MetricRelay
