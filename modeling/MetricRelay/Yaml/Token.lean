import MetricRelay.Text.Utf8
import MetricRelay.Yaml.Scalar

/-!
# YAML tokens

A YAML stream is a sequence of tokens.  Some have no characters of their own: the start and the
end of a collection in block style, which are given by columns, and the indicator of a key that
is recognised by its colon.

The readers of this module take the tokens that have a content: directives, anchors, aliases and
tags.  Each gives the token and the cursor behind it.
-/

namespace MetricRelay
namespace Yaml

/-- How a scalar is written. -/
inductive Style where
  | plain
  /-- Between single or double quotes. -/
  | quoted
  /-- In a block that keeps its lines. -/
  | literal
  /-- In a block whose lines are joined. -/
  | folded
deriving DecidableEq, Repr

/-- A token of a stream. -/
inductive Token where
  /-- The version that a document is written for. -/
  | version (major minor : Nat)
  /-- What a handle stands for in the tags of a document. -/
  | handle (name : String) (expansion : Bytes)
  | documentStart
  | documentEnd
  /-- A list whose items start in one column. -/
  | blockSequence
  /-- A mapping whose keys start in one column. -/
  | blockMapping
  | blockEnd
  | bracket
  | closingBracket
  | brace
  | closingBrace
  | dash
  | comma
  | key
  | value
  | anchor (name : String)
  | reference (name : String)
  /-- A tag, with the handle for its first part; without one, the empty handle. -/
  | tag (handle : String) (suffix : Bytes)
  | scalar (style : Style) (text : String)
deriving DecidableEq, Repr

/-! ### Names -/

def isNameChar (c : Char) : Bool := c.isAlphanum || c == '_' || c == '-'

/-- The name behind the indicator of an anchor or an alias. -/
def name? (cur : Cursor) : Option (String × Cursor) :=
  let cur := cur.skip 1
  let name := cur.rest.takeWhile isNameChar
  let next := cur.skip name.length
  if name.isEmpty then none
  else if isBlankStart next.rest || next.rest.head?.any ("?:,]\x7d%@`".toList.contains ·) then
    some (String.ofList name, next)
  else none

/-! ### Tags -/

/-- The character may stand in a tag; some may only do so if the tag is written out. -/
def isTagChar (isVerbatim : Bool) (c : Char) : Bool :=
  isNameChar c || ";/?:@&=+$.%!~*'()".toList.contains c ||
    (isVerbatim && (c == ',' || c == '[' || c == ']'))

/-- How many bytes follow the first one of a character. -/
def tailsOf? (b : UInt8) : Option Nat :=
  if b < 0x80 then some 0
  else if b &&& 0xE0 == 0xC0 then some 1
  else if b &&& 0xF0 == 0xE0 then some 2
  else if b &&& 0xF8 == 0xF0 then some 3
  else none

/-- The bytes of the characters of a tag, in which a percent sign and two digits stand for a
byte.  `tails` bytes are missing to the last character. -/
def tagBytes? : (tails : Nat) → List Char → Option Bytes
  | 0, [] => some []
  | _ + 1, [] => none
  | tails, '%' :: a :: b :: cs => do
    let byte := (← natInBase? 16 [a, b]).toUInt8
    match tails with
    | 0 => (byte :: ·) <$> tagBytes? (← tailsOf? byte) cs
    | tails + 1 => if byte &&& 0xC0 == 0x80 then (byte :: ·) <$> tagBytes? tails cs else none
  | 0, c :: cs => if c = '%' then none else (c.toNat.toUInt8 :: ·) <$> tagBytes? 0 cs
  | _ + 1, _ :: _ => none

/-- Bytes up to the first zero, which ends a tag. -/
def upToZero (bs : Bytes) : Bytes := bs.takeWhile (· != 0)

/-- The rest of a tag, of which some characters have been read. -/
def tagRest? (isVerbatim : Bool) (read : List Char) (cur : Cursor) : Option (Bytes × Cursor) := do
  let cs := cur.rest.takeWhile (isTagChar isVerbatim)
  return (upToZero (← tagBytes? 0 (read ++ cs)), cur.skip cs.length)

/-- A handle: an exclamation mark, or a name between two of them.  If the second one is missing,
the characters are those of a tag. -/
def handle? (cur : Cursor) : Option (List Char × Cursor) :=
  match cur.rest with
  | '!' :: rest =>
    let name := rest.takeWhile isNameChar
    let cs :=
      if (rest.drop name.length).head? == some '!' then '!' :: name ++ ['!'] else '!' :: name
    some (cs, cur.skip cs.length)
  | _ => none

/-- The characters are a name between two marks. -/
def isNamedHandle (cs : List Char) : Bool := 2 ≤ cs.length && cs.getLast? == some '!'

/-- A tag.  A mark alone is a tag of its own. -/
def tag? (cur : Cursor) : Option (Token × Cursor) :=
  if (cur.rest.drop 1).head? == some '<' then do
    let (suffix, next) ← tagRest? true [] (cur.skip 2)
    if next.rest.head? == some '>' ∧ next.offset ≠ cur.offset + 2 then
      some (.tag "" suffix, next.skip 1)
    else none
  else do
    let (cs, next) ← handle? cur
    if isNamedHandle cs then
      let (suffix, last) ← tagRest? false [] next
      if last.offset = next.offset then none
      else some (.tag (String.ofList cs) suffix, last)
    else
      let (suffix, last) ← tagRest? false (cs.drop 1) next
      if suffix.isEmpty then some (.tag "" [0x21], last) else some (.tag "!" suffix, last)

/-- A tag is followed by a blank, and inside brackets and braces also by a comma. -/
def isTagEnd (inFlow : Bool) (cur : Cursor) : Bool :=
  isBlankStart cur.rest || (inFlow && cur.rest.head? == some ',')

/-! ### Directives -/

def skipBlanks (cur : Cursor) : Cursor := cur.skip (cur.rest.takeWhile isBlank).length

/-- A number of at most nine digits. -/
def versionNumber? (cur : Cursor) : Option (Nat × Cursor) := do
  let digits := cur.rest.takeWhile Char.isDigit
  if digits.length ≤ 9 then
    return (← natInBase? 10 digits, cur.skip digits.length)
  else none

/-- The content of a directive of the version. -/
def versionDirective? (cur : Cursor) : Option (Token × Cursor) := do
  let (major, cur) ← versionNumber? (skipBlanks cur)
  if cur.rest.head? == some '.' then
    let (minor, cur) ← versionNumber? (cur.skip 1)
    return (.version major minor, cur)
  else none

/-- The content of a directive of a handle. -/
def handleDirective? (cur : Cursor) : Option (Token × Cursor) := do
  let (cs, cur) ← handle? (skipBlanks cur)
  if (isNamedHandle cs || cs.length == 1) && cur.rest.head?.any isBlank then
    let start := skipBlanks cur
    let (expansion, cur) ← tagRest? true [] start
    if cur.offset ≠ start.offset ∧ isBlankStart cur.rest then
      return (.handle (String.ofList cs) expansion, cur)
    else none
  else none

/-- A directive with its line. -/
def directive? (cur : Cursor) : Option (Token × Cursor) := do
  let cur := cur.skip 1
  let name := cur.rest.takeWhile isNameChar
  let cur := cur.skip name.length
  if isBlankStart cur.rest then
    let (token, cur) ←
      if name = "YAML".toList then versionDirective? cur
      else if name = "TAG".toList then handleDirective? cur
      else none
    let cur := skipBlanks cur
    let cur := if cur.rest.head? == some '#' then cur.skipLine else cur
    if cur.rest.head?.all isBreak then return (token, cur.advance) else none
  else none

end Yaml
end MetricRelay
