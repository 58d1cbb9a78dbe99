import MetricRelay.Number.Numeral
import MetricRelay.Text.Utf8

/-!
# JSON documents

A `Json` tree keeps what a document says before anything is asked of it: a number is its
numeral, and a string is the list of its pieces, bytes and escaped code units.  So a reader
that ignores a value never meets a numeral out of range or an escape that pairs with nothing;
only `Json.Text.decode?` and the readers of numerals reject those.

`Json.print` writes a tree without blanks.
-/

namespace MetricRelay

/-- The byte of an ASCII character. -/
def ascii (c : Char) : UInt8 := c.toNat.toUInt8

/-- The bytes of ASCII text. -/
def asciiBytes (cs : List Char) : Bytes := cs.map ascii

namespace Json

/-- A piece of a string: a byte, or an escaped 16-bit unit that is not an ASCII character. -/
inductive Piece where
  | byte (b : UInt8)
  | unit (n : Nat)
deriving DecidableEq, Repr

abbrev Text := List Piece

namespace Text

/-- The pieces of text: its bytes. -/
def ofString (s : String) : Text := (Utf8.encode s).map .byte

/-- The bytes of the character with a number that is no surrogate. -/
def unitBytes (n : Nat) : Bytes := String.utf8EncodeChar (Char.ofNat n)

/-- The bytes of a string; a unit of a surrogate pair has to be followed by its other half. -/
def bytes? : Text → Option Bytes
  | [] => some []
  | .byte b :: rest => (b :: ·) <$> bytes? rest
  | .unit n :: rest =>
    if n < 0xD800 ∨ 0xE000 ≤ n then (unitBytes n ++ ·) <$> bytes? rest
    else if n < 0xDC00 then
      match rest with
      | .unit m :: rest =>
        if 0xDC00 ≤ m ∧ m < 0xE000 then
          (unitBytes (0x10000 + (n - 0xD800) * 0x400 + (m - 0xDC00)) ++ ·) <$> bytes? rest
        else none
      | _ => none
    else none

/-- The text of a string whose bytes are well formed. -/
def decode? (t : Text) : Option String := bytes? t >>= Utf8.decode?

theorem bytes?_map_byte (bs : Bytes) : bytes? (bs.map .byte) = some bs := by
  induction bs with
  | nil => rfl
  | cons b bs ih =>
    rw [List.map_cons, bytes?, ih]
    rfl

theorem decode?_ofString (s : String) : decode? (ofString s) = some s := by
  rw [decode?, ofString, bytes?_map_byte]
  exact Utf8.decode?_encode s

end Text

end Json

/-- A JSON document. -/
inductive Json where
  | null
  | bool (b : Bool)
  | number (n : Numeral)
  | string (t : Json.Text)
  | array (items : List Json)
  | object (members : List (Json.Text × Json))
deriving Repr, Inhabited

namespace Json

/-- The last digit of a number in base sixteen, in lower case. -/
def hexDigit (n : Nat) : UInt8 := ascii (Nat.digitChar (n % 16))

/-- A unit escaped by four hexadecimal digits. -/
def escapedUnit (n : Nat) : Bytes :=
  [ascii '\\', ascii 'u', hexDigit (n / 4096), hexDigit (n / 256), hexDigit (n / 16), hexDigit n]

/-- How a piece is written: the quote, the backslash and controls are escaped, the common
controls by a letter. -/
def Piece.print : Piece → Bytes
  | .byte b =>
    if b = ascii '"' then [ascii '\\', ascii '"']
    else if b = ascii '\\' then [ascii '\\', ascii '\\']
    else if b = 0x08 then [ascii '\\', ascii 'b']
    else if b = 0x0C then [ascii '\\', ascii 'f']
    else if b = 0x0A then [ascii '\\', ascii 'n']
    else if b = 0x0D then [ascii '\\', ascii 'r']
    else if b = 0x09 then [ascii '\\', ascii 't']
    else if b < 0x20 then escapedUnit b.toNat
    else [b]
  | .unit n => escapedUnit n

def Text.print (t : Text) : Bytes := ascii '"' :: t.flatMap Piece.print ++ [ascii '"']

mutual

/-- The compact text of a document. -/
def print : Json → Bytes
  | .null => asciiBytes ['n', 'u', 'l', 'l']
  | .bool true => asciiBytes ['t', 'r', 'u', 'e']
  | .bool false => asciiBytes ['f', 'a', 'l', 's', 'e']
  | .number n => asciiBytes n.text
  | .string t => t.print
  | .array items => ascii '[' :: printItems items
  | .object members => ascii '\x7b' :: printMembers members

/-- The items of an array and its closing bracket. -/
def printItems : List Json → Bytes
  | [] => [ascii ']']
  | [item] => print item ++ [ascii ']']
  | item :: items => print item ++ ascii ',' :: printItems items

/-- The members of an object and its closing brace. -/
def printMembers : List (Text × Json) → Bytes
  | [] => [ascii '\x7d']
  | [(name, value)] => name.print ++ ascii ':' :: print value ++ [ascii '\x7d']
  | (name, value) :: members =>
    name.print ++ ascii ':' :: print value ++ ascii ',' :: printMembers members

end

/-- The string with the given text. -/
def ofString (s : String) : Json := .string (Text.ofString s)

/-- The object with the given members. -/
def ofMembers (members : List (String × Json)) : Json :=
  .object (members.map fun (name, value) => (Text.ofString name, value))

/-- The members that are present. -/
def present (parts : List (String × Option Json)) : List (String × Json) :=
  parts.filterMap fun (name, value) => value.map (name, ·)

/-- The object with those of the members that are present. -/
def ofPresent (parts : List (String × Option Json)) : Json := .ofMembers (present parts)

/-- The integral number. -/
def ofInt (i : Int) : Json := .number (Numeral.ofInt i)

end Json

end MetricRelay
