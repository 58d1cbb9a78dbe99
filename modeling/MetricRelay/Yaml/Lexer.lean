import MetricRelay.Yaml.Token

/-!
# The tokens of a YAML stream

`Token.ofChars?` splits the text of a stream into its tokens.

In block style the column of a token says how deep it stands: a token further to the right than
the innermost open collection may open another one, and a token further to the left closes those
that start behind it.  Inside brackets and braces columns do not matter.

A key without an indicator is known only when its colon is found.  Wherever one may start, the
place is kept as a `Candidate`, one for every level of brackets; the colon makes it a key, and
the tokens for the key and for the mapping that it opens are put in at the place of the
candidate.  A candidate in the column of the open mapping has to become a key.
-/

namespace MetricRelay
namespace Yaml

/-- How many bytes a key without an indicator may take, with the blanks before its colon. -/
def maxKeyLength : Nat := 1024

/-- A place where a key without an indicator may have started. -/
structure Candidate where
  /-- Nothing but a key can stand here. -/
  isRequired : Bool
  /-- How many tokens stand before it. -/
  position : Nat
  line : Nat
  column : Nat
  offset : Nat

/-- A candidate is given up. -/
def Candidate.giveUp : Option Candidate → Option (Option Candidate)
  | some c => if c.isRequired then none else some none
  | none => some none

/-- A candidate is given up when the cursor has left its line or is too far away. -/
def Candidate.expire (cur : Cursor) (candidate : Option Candidate) : Option (Option Candidate) :=
  match candidate with
  | some c =>
    if c.line < cur.line ∨ c.offset + maxKeyLength < cur.offset then giveUp candidate
    else some candidate
  | none => some none

/-- The state between two tokens. -/
structure Lexer where
  cursor : Cursor
  tokens : Array Token := #[]
  /-- The columns of the open collections in block style, the innermost one first. -/
  columns : List Nat := []
  /-- The candidate outside of all brackets, or inside the innermost ones. -/
  candidate : Option Candidate := none
  /-- The candidates of the levels around the innermost brackets. -/
  outer : List (Option Candidate) := []

namespace Lexer

def inFlow (l : Lexer) : Bool := !l.outer.isEmpty

/-- The column from which on the content of the innermost open collection may stand. -/
def least (l : Lexer) : Nat :=
  match l.columns with
  | [] => 0
  | column :: _ => column + 1

def emit (token : Token) (l : Lexer) : Lexer := { l with tokens := l.tokens.push token }

/-- Puts a token of characters of the line; `keyAllowed` says whether a key may start behind. -/
def take (n : Nat) (keyAllowed : Bool) (token : Token) (l : Lexer) : Lexer :=
  { l with cursor := (l.cursor.skip n).allowKey keyAllowed }.emit token

/-- Puts a token that a reader gives.  No key may start behind it. -/
def takeWith (read? : Cursor → Option (Token × Cursor)) (l : Lexer) : Option Lexer := do
  let (token, cursor) ← read? (l.cursor.allowKey false)
  return { l with cursor }.emit token

/-! ### Columns -/

/-- Opens a collection in a column unless one is open there; its token goes to a position. -/
def openBlock (column position : Nat) (token : Token) (l : Lexer) : Lexer :=
  if l.inFlow || column < l.least then l
  else
    { l with
      tokens := l.tokens.insertIdxIfInBounds position token
      columns := column :: l.columns }

/-- Opens a collection where the cursor stands. -/
def openBlockHere (token : Token) (l : Lexer) : Lexer :=
  l.openBlock l.cursor.column l.tokens.size token

/-- Closes the collections that start in one of the given columns. -/
def closeBlocks (isLeft : Nat → Bool) (l : Lexer) : Lexer :=
  if l.inFlow then l
  else
    let closed := l.columns.takeWhile isLeft
    { l with
      tokens := l.tokens ++ Array.replicate closed.length .blockEnd
      columns := l.columns.drop closed.length }

/-! ### Candidates -/

/-- Gives up the candidates that are no longer in reach. -/
def expire (l : Lexer) : Option Lexer := do
  return { l with
    candidate := ← Candidate.expire l.cursor l.candidate
    outer := ← l.outer.mapM (Candidate.expire l.cursor) }

def giveUpKey (l : Lexer) : Option Lexer := do
  return { l with candidate := ← Candidate.giveUp l.candidate }

/-- Keeps the place of the cursor as a candidate if a key may start there. -/
def keepPlace (l : Lexer) : Option Lexer := do
  if l.cursor.keyAllowed then
    let l ← l.giveUpKey
    return { l with
      candidate := some {
        isRequired := !l.inFlow && l.columns.head? == some l.cursor.column
        position := l.tokens.size
        line := l.cursor.line
        column := l.cursor.column
        offset := l.cursor.offset } }
  else return l

/-! ### Tokens -/

/-- The end of everything that is open, before a directive, a mark or the end of the stream. -/
def finish (l : Lexer) : Option Lexer := (l.closeBlocks fun _ => true).giveUpKey

def mark (token : Token) (l : Lexer) : Option Lexer := do
  return (← l.finish).take 3 false token

def opening (token : Token) (l : Lexer) : Option Lexer := do
  let l ← l.keepPlace
  return { l with candidate := none, outer := l.candidate :: l.outer }.take 1 true token

def closing (token : Token) (l : Lexer) : Option Lexer := do
  let l ← l.giveUpKey
  return { l with candidate := l.outer.head?.join, outer := l.outer.drop 1 }.take 1 false token

def comma (l : Lexer) : Option Lexer := do return (← l.giveUpKey).take 1 true .comma

/-- In block style, what starts an item or an entry stands where a key may start. -/
def mayStart (l : Lexer) : Bool := l.inFlow || l.cursor.keyAllowed

def dash (l : Lexer) : Option Lexer := do
  if l.mayStart then return (← (l.openBlockHere .blockSequence).giveUpKey).take 1 true .dash
  else none

def key (l : Lexer) : Option Lexer := do
  if l.mayStart then
    return (← (l.openBlockHere .blockMapping).giveUpKey).take 1 (!l.inFlow) .key
  else none

def value (l : Lexer) : Option Lexer :=
  match l.candidate with
  | some c =>
    let l := { l with
      tokens := l.tokens.insertIdxIfInBounds c.position .key
      candidate := none }
    some ((l.openBlock c.column c.position .blockMapping).take 1 false .value)
  | none =>
    if l.mayStart then
      some ((l.openBlockHere .blockMapping).take 1 (!l.inFlow) .value)
    else none

/-- A token of text. -/
def text (style : Style) (read? : Cursor → Option (List Char × Cursor)) :
    Lexer → Option Lexer :=
  takeWith fun cur => do
    let (cs, cur) ← read? cur
    return (.scalar style (String.ofList cs), cur)

/-- A token that may be a part of a key. -/
def inKey (take? : Lexer → Option Lexer) (l : Lexer) : Option Lexer := l.keepPlace >>= take?

def tag (l : Lexer) : Option Lexer := do
  let l ← l.takeWith tag?
  if isTagEnd l.inFlow l.cursor then return l else none

/-- A plain scalar may start with the character before the rest. -/
def startsPlain (inFlow : Bool) (c : Char) (rest : List Char) : Bool :=
  if c == '-' then !isBlankStart rest
  else if c == '?' || c == ':' then !inFlow && !isBlankStart rest
  else !isBlankStart (c :: rest) && !isFlowIndicator c && !"#&*!|>'\"%@`".toList.contains c

/-- The token that starts with a character; `fuel` is greater than the number of characters from
there on. -/
def next (fuel : Nat) (c : Char) (rest : List Char) (l : Lexer) : Option Lexer :=
  let isIndicator := l.inFlow || isBlankStart rest
  if c == '%' && l.cursor.column == 0 then l.finish >>= takeWith directive?
  else if l.cursor.atMark '-' then l.mark .documentStart
  else if l.cursor.atMark '.' then l.mark .documentEnd
  else if c == '[' then l.opening .bracket
  else if c == '\x7b' then l.opening .brace
  else if c == ']' then l.closing .closingBracket
  else if c == '\x7d' then l.closing .closingBrace
  else if c == ',' then l.comma
  else if c == '-' && isBlankStart rest then l.dash
  else if c == '?' && isIndicator then l.key
  else if c == ':' && isIndicator then l.value
  else if c == '*' then
    l.inKey (takeWith fun cur => (name? cur).map fun (n, cur) => (.reference n, cur))
  else if c == '&' then
    l.inKey (takeWith fun cur => (name? cur).map fun (n, cur) => (.anchor n, cur))
  else if c == '!' then l.inKey tag
  else if (c == '|' || c == '>') && !l.inFlow then do
    let style := if c == '>' then .folded else .literal
    (← l.giveUpKey).text style fun cur => block? (c == '>') l.least fuel (cur.skip 1)
  else if c == '\'' then l.inKey (text .quoted fun cur => singleQuoted? fuel (cur.skip 1))
  else if c == '"' then l.inKey (text .quoted fun cur => doubleQuoted? fuel (cur.skip 1))
  else if startsPlain l.inFlow c rest then l.inKey (text .plain (plain? l.inFlow l.least fuel))
  else none

/-- The tokens from a state on; `fuel` is greater than the number of characters left. -/
def run : Nat → Lexer → Option (Array Token)
  | 0, _ => none
  | fuel + 1, l => do
    let l ← { l with cursor := l.cursor.skipGap l.inFlow fuel }.expire
    let l := l.closeBlocks (l.cursor.column < ·)
    match l.cursor.rest with
    | [] => return (← l.finish).tokens
    | c :: rest => run fuel (← l.next (fuel + 1) c rest)

end Lexer

/-- The tokens of a stream. -/
def Token.ofChars? (cs : List Char) : Option (List Token) :=
  if cs.all isAllowed then
    (Lexer.run (cs.length + 1) { cursor := { rest := unifyBreaks cs } }).map Array.toList
  else none

end Yaml
end MetricRelay
