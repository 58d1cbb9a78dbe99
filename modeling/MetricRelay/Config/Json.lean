import MetricRelay.Config.Value
import MetricRelay.Json.Parser

/-!
# Configuration from JSON

A number without a fraction and an exponent is an integer as long as it fits 64 bits, and a
floating-point number beyond that.  A document is refused if a number is too large for any of
these, if a string is not well formed, or if it is nested too deeply.
-/

namespace MetricRelay
namespace Config

/-- The value of a numeral.  A zero with a sign is no integer. -/
def ofNumeral? (n : Numeral) : Option Config :=
  if n.isIntegral ∧ ¬n.isNegative ∧ n.toInt < UInt64.size then some (.unsigned n.toInt.toNat)
  else if n.isIntegral ∧ n.toInt < 0 ∧ Int64.minValue.toInt ≤ n.toInt then some (.signed n.toInt)
  else if n.toBinary64.isFinite then some (.float n.toBinary64)
  else none

/-- The value is a natural number of 64 bits. -/
def isIdentity : Json → Bool
  | .number n =>
    match ofNumeral? n with
    | some (.unsigned _) => true
    | _ => false
  | _ => false

mutual

/-- The value of a document nested at most `depth` deep.  Only inside a file a table may stand
for another value. -/
def ofJson? (inFile : Bool) (depth : Nat) : Json → Option Config
  | .null => some .null
  | .bool b => some (.bool b)
  | .number n => ofNumeral? n
  | .string t => .text <$> t.decode?
  | .array items =>
    match depth with
    | 0 => none
    | depth + 1 => .list <$> ofItems? inFile depth items
  | .object members =>
    match depth with
    | 0 => none
    | depth + 1 => do
      let entries ← ofMembers? inFile depth members
      return if inFile then ofEntries entries else .table (Keyed.ofList entries)

def ofItems? (inFile : Bool) (depth : Nat) : List Json → Option (List Config)
  | [] => some []
  | item :: items => do
    let c ← ofJson? inFile depth item
    return c :: (← ofItems? inFile depth items)

def ofMembers? (inFile : Bool) (depth : Nat) :
    List (Json.Text × Json) → Option (List (String × Config))
  | [] => some []
  | (name, value) :: members => do
    let name ← name.decode?
    if inFile ∧ name = identityName then
      if isIdentity value then ofMembers? inFile depth members else none
    else
      let c ← ofJson? inFile depth value
      return (name, c) :: (← ofMembers? inFile depth members)

end

/-- How deeply a document may be nested. -/
def maxJsonDepth : Nat := 127

/-- The configuration that the bytes of a JSON file hold.  It is a table, and stands for no
other value. -/
def ofJsonFile? (bs : Bytes) : Option Config := do
  match ← Json.parse? bs with
  | .object members =>
    let entries ← members.mapM fun (name, value) => do
      let name ← name.decode?
      return (name, ← ofJson? true (maxJsonDepth - 1) value)
    return .table (Keyed.ofList entries)
  | _ => none

end Config
end MetricRelay
