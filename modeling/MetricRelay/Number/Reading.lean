import MetricRelay.Number.Numeral

/-!
# Reading numbers from text

Configuration text writes numbers freely: a sign of either kind, leading zeros, and digits on
only one side of the point.  The readers here take the whole text or nothing.
-/

namespace MetricRelay

/-- The digits of text that has nothing but digits, in a base up to sixteen. -/
def digitsInBase? (base : Nat) (cs : List Char) : Option (List Nat) :=
  cs.mapM fun c =>
    let n := c.toNat
    let d :=
      if 48 ≤ n ∧ n ≤ 57 then n - 48
      else if 65 ≤ n ∧ n ≤ 70 then n - 55
      else if 97 ≤ n ∧ n ≤ 102 then n - 87
      else base
    if d < base then some d else none

/-- The natural number that digits in a base write; there has to be one. -/
def natInBase? (base : Nat) (cs : List Char) : Option Nat := do
  match ← digitsInBase? base cs with
  | [] => none
  | ds => some (ds.foldl (fun n d => base * n + d) 0)

/-- The character whose number is written in base sixteen. -/
def charInBase16? (cs : List Char) : Option Char := do
  let n ← natInBase? 16 cs
  if h : n.isValidChar then some (Char.ofNatAux n h) else none

/-- The text behind a sign, and whether the sign is negative. -/
def splitSign : List Char → Bool × List Char
  | '-' :: cs => (true, cs)
  | '+' :: cs => (false, cs)
  | cs => (false, cs)

/-- The characters up to the first one that satisfies the test, and those behind it if there is
one. -/
def splitAtFirst (test : Char → Bool) (cs : List Char) : List Char × Option (List Char) :=
  match cs.dropWhile (!test ·) with
  | [] => (cs, none)
  | _ :: rest => (cs.takeWhile (!test ·), some rest)

/-- The numeral that text writes: a sign, digits with a point anywhere among them or around
them, and an exponent; all but one digit may be left out. -/
def Numeral.read? (cs : List Char) : Option Numeral := do
  let (isNegative, cs) := splitSign cs
  let (mantissa, exponent) := splitAtFirst (fun c => c == 'e' || c == 'E') cs
  let (whole, fraction) := splitAtFirst (· == '.') mantissa
  let whole ← digitsInBase? 10 whole
  let fraction ← digitsInBase? 10 (fraction.getD [])
  if whole.isEmpty && fraction.isEmpty then none
  else
    match exponent with
    | none => return ⟨isNegative, whole, fraction, none⟩
    | some cs =>
      let (isNegativeExponent, cs) := splitSign cs
      let e ← natInBase? 10 cs
      return ⟨isNegative, whole, fraction, some (if isNegativeExponent then -(e : Int) else e)⟩

end MetricRelay
