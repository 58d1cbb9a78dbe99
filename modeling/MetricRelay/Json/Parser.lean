import MetricRelay.Json.Value

/-!
# Reading JSON

`Json.parse?` reads one document and allows blanks around it.  Each reader takes the start of
its input and gives back what remains, so a reader says nothing about what follows.  A reader of
a list hands its input on to `value?`, which consumes a byte before it hands on the rest; so two
units of fuel are enough for every byte.
-/

namespace MetricRelay
namespace Json

def isBlankByte (b : UInt8) : Bool := b == 0x20 || b == 0x09 || b == 0x0A || b == 0x0D

def skipBlank (bs : Bytes) : Bytes := bs.dropWhile isBlankByte

def isDigitByte (b : UInt8) : Bool := ascii '0' ≤ b && b ≤ ascii '9'

/-- The digits at the start of the input. -/
def digits (bs : Bytes) : List Nat × Bytes :=
  ((bs.takeWhile isDigitByte).map (·.toNat - 48), bs.dropWhile isDigitByte)

/-- The value of a hexadecimal digit of either case. -/
def hexValue? (b : UInt8) : Option Nat :=
  if isDigitByte b then some (b.toNat - 48)
  else if ascii 'a' ≤ b ∧ b ≤ ascii 'f' then some (b.toNat - 87)
  else if ascii 'A' ≤ b ∧ b ≤ ascii 'F' then some (b.toNat - 55)
  else none

/-! ### Numbers -/

/-- The whole part of a number: a zero stands alone. -/
def whole? (bs : Bytes) : Option (List Nat × Bytes) :=
  match digits bs with
  | ([], _) => none
  | (0 :: _ :: _, _) => none
  | found => some found

/-- The digits after a point, if there is one; it is followed by a digit. -/
def fraction? : Bytes → Option (List Nat × Bytes)
  | [] => some ([], [])
  | b :: rest =>
    if b = ascii '.' then
      match digits rest with
      | ([], _) => none
      | found => some found
    else some ([], b :: rest)

/-- The exponent, if there is one: a letter, perhaps a sign, and a digit at least. -/
def exponent? : Bytes → Option (Option Int × Bytes)
  | [] => some (none, [])
  | b :: rest =>
    if b = ascii 'e' ∨ b = ascii 'E' then
      let (isNegative, rest) := match rest with
        | [] => (false, [])
        | s :: rest =>
          if s = ascii '-' then (true, rest)
          else if s = ascii '+' then (false, rest)
          else (false, s :: rest)
      match digits rest with
      | ([], _) => none
      | (ds, rest) =>
        some (some (if isNegative then -(ofDigits ds : Int) else ofDigits ds), rest)
    else some (none, b :: rest)

/-- A number, from its sign on. -/
def numeral? (bs : Bytes) : Option (Numeral × Bytes) := do
  let (isNegative, bs) := match bs with
    | [] => (false, [])
    | b :: rest => if b = ascii '-' then (true, rest) else (false, b :: rest)
  let (whole, bs) ← whole? bs
  let (fraction, bs) ← fraction? bs
  let (exponent, bs) ← exponent? bs
  return (⟨isNegative, whole, fraction, exponent⟩, bs)

/-! ### Strings -/

/-- The byte that a letter after a backslash stands for. -/
def letterEscape? (b : UInt8) : Option UInt8 :=
  if b = ascii '"' ∨ b = ascii '\\' ∨ b = ascii '/' then some b
  else if b = ascii 'b' then some 0x08
  else if b = ascii 'f' then some 0x0C
  else if b = ascii 'n' then some 0x0A
  else if b = ascii 'r' then some 0x0D
  else if b = ascii 't' then some 0x09
  else none

/-- The piece that an escaped unit stands for. -/
def unitPiece (n : Nat) : Piece := if n < 0x80 then .byte n.toUInt8 else .unit n

/-- A string, from behind its opening quote on. -/
def text? : Bytes → Option (Text × Bytes)
  | [] => none
  | [b] => if b = ascii '"' then some ([], []) else none
  | b :: e :: rest =>
    if b = ascii '"' then some ([], e :: rest)
    else if b < 0x20 then none
    else if b = ascii '\\' then
      if e = ascii 'u' then
        match rest with
        | h₁ :: h₂ :: h₃ :: h₄ :: rest => do
          let n := 4096 * (← hexValue? h₁) + 256 * (← hexValue? h₂) + 16 * (← hexValue? h₃) +
            (← hexValue? h₄)
          let (t, rest) ← text? rest
          return (unitPiece n :: t, rest)
        | _ => none
      else do
        let c ← letterEscape? e
        let (t, rest) ← text? rest
        return (.byte c :: t, rest)
    else do
      let (t, rest) ← text? (e :: rest)
      return (.byte b :: t, rest)

/-! ### Documents -/

/-- The input without the word at its start. -/
def dropWord? (word : List Char) (bs : Bytes) : Option Bytes :=
  if (asciiBytes word).isPrefixOf bs then some (bs.drop word.length) else none

mutual

/-- A document, and what remains behind it. -/
def value? : Nat → Bytes → Option (Json × Bytes)
  | 0, _ => none
  | fuel + 1, bs =>
    match skipBlank bs with
    | [] => none
    | b :: rest =>
      if b = ascii '"' then do
        let (t, rest) ← text? rest
        return (.string t, rest)
      else if b = ascii '[' then
        match skipBlank rest with
        | [] => none
        | c :: rest =>
          if c = ascii ']' then some (.array [], rest)
          else do
            let (items, rest) ← items? fuel (c :: rest)
            return (.array items, rest)
      else if b = ascii '\x7b' then
        match skipBlank rest with
        | [] => none
        | c :: rest =>
          if c = ascii '\x7d' then some (.object [], rest)
          else do
            let (members, rest) ← members? fuel (c :: rest)
            return (.object members, rest)
      else if b = ascii 'n' then (.null, ·) <$> dropWord? ['u', 'l', 'l'] rest
      else if b = ascii 't' then (.bool true, ·) <$> dropWord? ['r', 'u', 'e'] rest
      else if b = ascii 'f' then (.bool false, ·) <$> dropWord? ['a', 'l', 's', 'e'] rest
      else do
        let (n, rest) ← numeral? (b :: rest)
        return (.number n, rest)

/-- The items of an array that is not empty, up to its closing bracket. -/
def items? : Nat → Bytes → Option (List Json × Bytes)
  | 0, _ => none
  | fuel + 1, bs => do
    let (item, rest) ← value? fuel bs
    match skipBlank rest with
    | [] => none
    | c :: rest =>
      if c = ascii ']' then some ([item], rest)
      else if c = ascii ',' then do
        let (items, rest) ← items? fuel rest
        return (item :: items, rest)
      else none

/-- The members of an object that is not empty, up to its closing brace. -/
def members? : Nat → Bytes → Option (List (Text × Json) × Bytes)
  | 0, _ => none
  | fuel + 1, bs =>
    match skipBlank bs with
    | [] => none
    | q :: rest =>
      if q = ascii '"' then do
        let (name, rest) ← text? rest
        match skipBlank rest with
        | [] => none
        | c :: rest =>
          if c = ascii ':' then do
            let (value, rest) ← value? fuel rest
            match skipBlank rest with
            | [] => none
            | c :: rest =>
              if c = ascii '\x7d' then some ([(name, value)], rest)
              else if c = ascii ',' then do
                let (members, rest) ← members? fuel rest
                return ((name, value) :: members, rest)
              else none
          else none
      else none

end

/-- The document that the bytes hold, and nothing else but blanks. -/
def parse? (bs : Bytes) : Option Json := do
  let (value, rest) ← value? (2 * bs.length + 2) bs
  if skipBlank rest = [] then some value else none

end Json
end MetricRelay
