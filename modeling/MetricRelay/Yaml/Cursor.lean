/-!
# The place of reading in a YAML stream

A `Cursor` is what remains of a stream, with the line and the column at which it stands.  The
structure of block style is given by columns, and a mapping without an indicator is recognised
only by the colon behind its first key, which has to stand on the line on which the key starts
and not too many bytes away; `Cursor.keyAllowed` says whether such a key may start here.
-/

namespace MetricRelay
namespace Yaml

/-! ### Characters -/

def isBreak (c : Char) : Bool := c == '\n' || c == '\u2028' || c == '\u2029'

def isBlank (c : Char) : Bool := c == ' ' || c == '\t'

/-- The text starts with a blank or a line break, or is at its end. -/
def isBlankStart : List Char → Bool
  | [] => true
  | c :: _ => isBlank c || isBreak c

/-- The character has a meaning of its own inside brackets and braces. -/
def isFlowIndicator (c : Char) : Bool :=
  c == ',' || c == '[' || c == ']' || c == '\x7b' || c == '\x7d'

/-- The character may stand in a stream. -/
def isAllowed (c : Char) : Bool :=
  let n := c.toNat
  n == 0x9 || n == 0xA || n == 0xD || (0x20 ≤ n && n ≤ 0x7E) || n == 0x85 ||
    (0xA0 ≤ n && n ≤ 0xFFFD) || 0x10000 ≤ n

/-- How many bytes characters take up. -/
def byteCount : List Char → Nat
  | [] => 0
  | c :: cs => c.utf8Size + byteCount cs

/-- The text with one character for each common line break. -/
def unifyBreaks : List Char → List Char
  | [] => []
  | '\r' :: '\n' :: cs => '\n' :: unifyBreaks cs
  | c :: cs => (if c = '\r' ∨ c = '\u0085' then '\n' else c) :: unifyBreaks cs

/-! ### Cursors -/

/-- A place in a stream. -/
structure Cursor where
  rest : List Char
  line : Nat := 0
  column : Nat := 0
  /-- The bytes before this place. -/
  offset : Nat := 0
  /-- A key without an indicator may start here. -/
  keyAllowed : Bool := true

namespace Cursor

/-- The cursor behind a number of characters of one line. -/
def skip (n : Nat) (cur : Cursor) : Cursor :=
  { cur with
    rest := cur.rest.drop n
    column := cur.column + n
    offset := cur.offset + byteCount (cur.rest.take n) }

/-- The cursor behind the character at which it stands. -/
def advance (cur : Cursor) : Cursor :=
  match cur.rest with
  | [] => cur
  | c :: rest =>
    if isBreak c then
      { cur with rest, line := cur.line + 1, column := 0, offset := cur.offset + c.utf8Size }
    else { cur with rest, column := cur.column + 1, offset := cur.offset + c.utf8Size }

def allowKey (isAllowed : Bool) (cur : Cursor) : Cursor := { cur with keyAllowed := isAllowed }

/-- The cursor stands before the mark, alone at the start of a line. -/
def atMark (mark : Char) (cur : Cursor) : Bool :=
  cur.column == 0 && [mark, mark, mark].isPrefixOf cur.rest && isBlankStart (cur.rest.drop 3)

/-- The cursor stands before a mark of the start or the end of a document. -/
def atDocumentMark (cur : Cursor) : Bool := cur.atMark '-' || cur.atMark '.'

/-- The comment that starts here and everything else up to the end of the line. -/
def skipLine (cur : Cursor) : Cursor :=
  cur.skip (cur.rest.takeWhile (!isBreak ·)).length

/-- The cursor at the next token: goes over blanks, comments and line breaks; `fuel` is at least
the number of characters that are left.  A tab is no indentation, but a byte order mark at the
start of a line counts as a blank.  In block style a key may start on every new line. -/
def skipGap (inFlow : Bool) : Nat → Cursor → Cursor
  | 0, cur => cur
  | fuel + 1, cur =>
    match cur.rest with
    | [] => cur
    | c :: _ =>
      if c = ' ' ∨ (c = '\t' ∧ (inFlow ∨ !cur.keyAllowed)) ∨ (c = '\uFEFF' ∧ cur.column = 0) then
        skipGap inFlow fuel cur.advance
      else if c = '#' then skipGap inFlow fuel cur.skipLine
      else if isBreak c then
        skipGap inFlow fuel (cur.advance.allowKey (cur.keyAllowed || !inFlow))
      else cur

end Cursor

end Yaml
end MetricRelay
