import MetricRelay.Text.Unshown

/-!
# Quoted text

Messages show foreign text between double quotes: the quote and the backslash are escaped,
common controls have a letter, and every other character that would not show is given by its
number in braces.
-/

namespace MetricRelay

/-- The digits of a number in base sixteen, in lower case. -/
def hexText (n : Nat) : List Char := Nat.toDigits 16 n

/-- The hexadecimal text of a number, padded with zeros to a width. -/
def hexPadded (width n : Nat) : List Char :=
  List.replicate (width - (hexText n).length) '0' ++ hexText n

/-- How a character is written in quoted text. -/
def quotedChar (c : Char) : List Char :=
  if c = '"' then ['\\', '"']
  else if c = '\\' then ['\\', '\\']
  else if c = '\n' then ['\\', 'n']
  else if c = '\r' then ['\\', 'r']
  else if c = '\t' then ['\\', 't']
  else if c.toNat = 0 then ['\\', '0']
  else if isUnshown c then ['\\', 'u', '\x7b'] ++ hexText c.toNat ++ ['\x7d']
  else [c]

/-- Text between double quotes. -/
def quoted (s : String) : String :=
  String.ofList ('"' :: s.toList.flatMap quotedChar ++ ['"'])

end MetricRelay
