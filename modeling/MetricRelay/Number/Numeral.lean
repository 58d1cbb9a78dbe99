import MetricRelay.Number.Shortest

/-!
# Decimal numerals

A `Numeral` is what stands on the page: a sign, the digits before and after the point, and the
exponent if there is one.  A numeral without a fraction and without an exponent is integral.
`Numeral.text` writes it and `Numeral.decimal` says which number it stands for.

Which numeral stands for a double-precision value is a matter of format.  A `Layout` records
the decisions: which exponents are written in place, and whether a whole number keeps a zero
after its point.  Digits and layout are independent: the digits are always the shortest ones.
-/

namespace MetricRelay

/-- A number as it is written.  Digits stand with the leading one first. -/
structure Numeral where
  isNegative : Bool
  whole : List Nat
  fraction : List Nat
  exponent : Option Int
deriving DecidableEq, Repr, Inhabited

namespace Numeral

def digitText (ds : List Nat) : List Char := ds.map Nat.digitChar

/-- The numeral of an integer. -/
def ofInt (i : Int) : Numeral := ⟨i < 0, decimalDigits i.natAbs, [], none⟩

/-- An exponent is written with its sign. -/
def exponentText : Option Int → List Char
  | none => []
  | some e => 'e' :: (if e < 0 then '-' else '+') :: digitText (decimalDigits e.natAbs)

/-- The text of a numeral. -/
def text (n : Numeral) : List Char :=
  (if n.isNegative then ['-'] else []) ++ digitText n.whole ++
    (if n.fraction.isEmpty then [] else '.' :: digitText n.fraction) ++ exponentText n.exponent

/-- The numeral has neither a fraction nor an exponent. -/
def isIntegral (n : Numeral) : Bool := n.fraction.isEmpty && n.exponent.isNone

/-- The number a numeral stands for, without its sign. -/
def decimal (n : Numeral) : Decimal :=
  ⟨ofDigits (n.whole ++ n.fraction), n.exponent.getD 0 - n.fraction.length⟩

/-- The double-precision value nearest to the number. -/
def toBinary64 (n : Numeral) : Binary64 := n.decimal.toBinary64 n.isNegative

/-- The whole part with its sign. -/
def toInt (n : Numeral) : Int :=
  if n.isNegative then -(ofDigits n.whole : Int) else ofDigits n.whole

end Numeral

/-- The text of an integer. -/
def intText (i : Int) : String := String.ofList (Numeral.ofInt i).text

/-- The decisions of a format on the numerals of double-precision values. -/
structure Layout where
  /-- Least and greatest exponent of the leading digit written positionally; all, if absent. -/
  positional : Option (Int × Int)
  /-- A whole number is written with a zero after its point. -/
  wholeHasPoint : Bool
  tie : Tie

namespace Layout

/-- The digits with the point `position` digits after the start. -/
def positionalNumeral (layout : Layout) (isNegative : Bool) (ds : List Nat) (position : Int) :
    Numeral :=
  if position ≤ 0 then
    ⟨isNegative, [0], List.replicate (-position).toNat 0 ++ ds, none⟩
  else if ds.length ≤ position then
    ⟨isNegative, ds ++ List.replicate (position.toNat - ds.length) 0,
      if layout.wholeHasPoint then [0] else [], none⟩
  else ⟨isNegative, ds.take position.toNat, ds.drop position.toNat, none⟩

/-- The numeral of a finite value. -/
def numeral (layout : Layout) (x : Binary64) : Numeral :=
  let d := x.shortest layout.tie
  let ds := decimalDigits d.digits
  let position : Int := ds.length + d.exponent
  let isPositional := match layout.positional with
    | none => true
    | some (least, greatest) => least ≤ position - 1 && position - 1 ≤ greatest
  if isPositional then layout.positionalNumeral x.isNegative ds position
  else ⟨x.isNegative, ds.take 1, ds.drop 1, some (position - 1)⟩

/-- Every digit in its place, whatever the exponent, and a whole number without a point. -/
def plain : Layout := ⟨none, false, .upward⟩

end Layout

/-- The plain text of a value, with names for the values that are no finite numbers. -/
def Binary64.plainText (x : Binary64) : String :=
  if x.isNaN then "NaN"
  else if x.isInfinite then (if x.isNegative then "-inf" else "inf")
  else String.ofList (Layout.plain.numeral x).text

end MetricRelay
