import MetricRelay.Number.Reading
import MetricRelay.Yaml.Cursor

/-!
# YAML scalars

The text of a scalar may go over several lines.  Plain and quoted text is folded: a single line
break between words counts as a space, and of several breaks the first one does not count
(`Gap.folded`).  Block scalars keep their lines, or fold those that are not indented further.

Every reader gives the text and the cursor behind it.  The `fuel` of a reader is greater than the
number of characters that are left.
-/

namespace MetricRelay
namespace Yaml

/-! ### Gaps between words -/

/-- What stands between two words: blanks up to the first line break, and the breaks. -/
structure Gap where
  blanks : List Char := []
  breaks : List Char := []

namespace Gap

/-- What a gap counts for in folded text. -/
def folded (g : Gap) : List Char :=
  match g.breaks with
  | [] => g.blanks
  | c :: breaks =>
    if c ≠ '\n' then c :: breaks
    else if breaks.isEmpty then [' ']
    else breaks

/-- Reads a gap; behind a line break, no tab stands before the column `least`. -/
def read? (least : Nat) : Nat → Cursor → Gap → Option (Gap × Cursor)
  | 0, cur, g => some (g, cur)
  | fuel + 1, cur, g =>
    match cur.rest with
    | [] => some (g, cur)
    | c :: _ =>
      if isBreak c then read? least fuel cur.advance { g with breaks := g.breaks ++ [c] }
      else if isBlank c then
        if g.breaks.isEmpty then
          read? least fuel cur.advance { g with blanks := g.blanks ++ [c] }
        else if c = '\t' ∧ cur.column < least then none
        else read? least fuel cur.advance g
      else some (g, cur)

end Gap

/-! ### Plain scalars -/

/-- The characters up to a blank, to a colon before a blank, or inside brackets and braces to an
indicator of these. -/
def word? (inFlow : Bool) : List Char → Option (List Char)
  | [] => some []
  | c :: cs =>
    if isBlankStart (c :: cs) || (c == ':' && isBlankStart cs) then some []
    else if inFlow && c == ':' && cs.head?.any (fun d => d == '?' || isFlowIndicator d) then none
    else if inFlow && isFlowIndicator c then some []
    else (c :: ·) <$> word? inFlow cs

/-- A plain scalar, whose later lines in block style start at column `least` at least. -/
def plain? (inFlow : Bool) (least : Nat) : Nat → Cursor → Option (List Char × Cursor)
  | 0, _ => none
  | fuel + 1, cur =>
    if cur.atDocumentMark || cur.rest.head? == some '#' then some ([], cur)
    else do
      let word ← word? inFlow cur.rest
      if word.isEmpty then some ([], cur)
      else
        let cur := (cur.skip word.length).allowKey false
        let (gap, cur) ← Gap.read? least fuel cur {}
        let cur := cur.allowKey !gap.breaks.isEmpty
        if (gap.blanks.isEmpty && gap.breaks.isEmpty) || (!inFlow && cur.column < least) then
          some (word, cur)
        else
          let (more, cur) ← plain? inFlow least fuel cur
          some (if more.isEmpty then word else word ++ gap.folded ++ more, cur)

/-! ### Quoted scalars -/

/-- Text between single quotes, from behind the opening one on. -/
def singleQuoted? : Nat → Cursor → Option (List Char × Cursor)
  | 0, _ => none
  | fuel + 1, cur =>
    if cur.atDocumentMark then none
    else
      match cur.rest with
      | [] => none
      | '\'' :: '\'' :: _ => do
        let (more, cur) ← singleQuoted? fuel (cur.skip 2)
        return ('\'' :: more, cur)
      | '\'' :: _ => some ([], cur.skip 1)
      | c :: rest =>
        if isBlankStart (c :: rest) then do
          let (gap, cur) ← Gap.read? 0 fuel cur {}
          let (more, cur) ← singleQuoted? fuel cur
          return (gap.folded ++ more, cur)
        else do
          let (more, cur) ← singleQuoted? fuel (cur.skip 1)
          return (c :: more, cur)

/-- The character that a letter after a backslash stands for. -/
def letterEscape? (c : Char) : Option Char :=
  ([('0', '\x00'), ('a', '\x07'), ('b', '\x08'), ('t', '\t'), ('\t', '\t'), ('n', '\n'),
    ('v', '\x0b'), ('f', '\x0c'), ('r', '\r'), ('e', '\x1b'), (' ', ' '), ('"', '"'),
    ('/', '/'), ('\\', '\\'), ('N', '\u0085'), ('_', '\u00a0'), ('L', '\u2028'),
    ('P', '\u2029')] : List (Char × Char)).lookup c

/-- The number of digits that a letter after a backslash announces. -/
def escapeDigits? (c : Char) : Option Nat :=
  ([('x', 2), ('u', 4), ('U', 8)] : List (Char × Nat)).lookup c

/-- Text between double quotes, from behind the opening one on.  A line break behind a backslash
does not count. -/
def doubleQuoted? : Nat → Cursor → Option (List Char × Cursor)
  | 0, _ => none
  | fuel + 1, cur =>
    if cur.atDocumentMark then none
    else
      match cur.rest with
      | [] => none
      | '"' :: _ => some ([], cur.skip 1)
      | '\\' :: c :: rest =>
        if isBreak c then do
          let (gap, cur) ← Gap.read? 0 fuel (cur.skip 1) {}
          let (more, cur) ← doubleQuoted? fuel cur
          return (gap.breaks.drop 1 ++ more, cur)
        else
          match escapeDigits? c with
          | none => do
            let e ← letterEscape? c
            let (more, cur) ← doubleQuoted? fuel (cur.skip 2)
            return (e :: more, cur)
          | some n => do
            if (rest.take n).length < n then none
            else
              let e ← charInBase16? (rest.take n)
              let (more, cur) ← doubleQuoted? fuel (cur.skip (2 + n))
              return (e :: more, cur)
      | c :: rest =>
        if isBlankStart (c :: rest) then do
          let (gap, cur) ← Gap.read? 0 fuel cur {}
          let (more, cur) ← doubleQuoted? fuel cur
          return (gap.folded ++ more, cur)
        else do
          let (more, cur) ← doubleQuoted? fuel (cur.skip 1)
          return (c :: more, cur)

/-! ### Block scalars -/

/-- What becomes of the line breaks at the end of a block scalar. -/
inductive Chomping where
  | strip
  | clip
  | keep
deriving DecidableEq, Repr

def chomping? : Char → Option Chomping
  | '-' => some .strip
  | '+' => some .keep
  | _ => none

/-- The number that a digit other than zero stands for. -/
def indentation? (c : Char) : Option Nat :=
  if '1' ≤ c ∧ c ≤ '9' then some (c.toNat - 48) else none

/-- The indicators behind the one that starts a block scalar, in either order, and how many
there are. -/
def blockIndicators : List Char → Chomping × Option Nat × Nat
  | [] => (.clip, none, 0)
  | c :: cs =>
    match chomping? c with
    | some chomping =>
      match cs.head? >>= indentation? with
      | some n => (chomping, some n, 2)
      | none => (chomping, none, 1)
    | none =>
      match indentation? c with
      | none => (.clip, none, 0)
      | some n =>
        match cs.head? >>= chomping? with
        | some chomping => (chomping, some n, 2)
        | none => (.clip, some n, 1)

/-- Empty lines and the indentation behind them.  Without a known indentation all spaces count,
and the greatest column is found. -/
def blockGap? (indent : Option Nat) :
    Nat → Cursor → List Char → Nat → Option (List Char × Nat × Cursor)
  | 0, cur, breaks, widest => some (breaks, widest, cur)
  | fuel + 1, cur, breaks, widest =>
    let isIndentation := indent.all (cur.column < ·)
    let widest := max widest cur.column
    match cur.rest with
    | [] => some (breaks, widest, cur)
    | c :: _ =>
      if c = ' ' ∧ isIndentation then blockGap? indent fuel cur.advance breaks widest
      else if c = '\t' ∧ isIndentation then none
      else if isBreak c then blockGap? indent fuel cur.advance (breaks ++ [c]) widest
      else some (breaks, widest, cur)

/-- The line break between two lines of a block scalar; in a folded scalar one between lines
that start with no blank counts as a space. -/
def lineGap (isFolded afterBlank beforeBlank : Bool) (leading trailing : List Char) :
    List Char :=
  if isFolded && leading == ['\n'] && !afterBlank && !beforeBlank then
    if trailing.isEmpty then [' '] else trailing
  else leading ++ trailing

/-- The lines of a block scalar.  `leading` and `trailing` are the line break behind the line
before and the breaks of the empty lines behind that. -/
def blockLines? (isFolded : Bool) (chomping : Chomping) (indent : Nat) :
    Nat → Cursor → (afterBlank : Bool) → (leading trailing : List Char) →
      Option (List Char × Cursor)
  | 0, _, _, _, _ => none
  | fuel + 1, cur, afterBlank, leading, trailing =>
    if cur.column = indent ∧ !cur.rest.isEmpty then do
      let beforeBlank := cur.rest.head?.any isBlank
      let line := cur.rest.takeWhile (!isBreak ·)
      let cur := cur.skip line.length
      let next := cur.rest.take 1
      let cur := cur.advance
      let (breaks, _, cur) ← blockGap? (some indent) fuel cur [] 0
      let (more, cur) ← blockLines? isFolded chomping indent fuel cur beforeBlank next breaks
      return (lineGap isFolded afterBlank beforeBlank leading trailing ++ line ++ more, cur)
    else
      some (match chomping with
        | .strip => []
        | .clip => leading
        | .keep => leading ++ trailing, cur)

/-- A block scalar, from behind the indicator that starts it on.  Its lines start at column
`least` at least. -/
def block? (isFolded : Bool) (least fuel : Nat) (cur : Cursor) : Option (List Char × Cursor) := do
  let (chomping, explicit, width) := blockIndicators cur.rest
  let cur := cur.skip width
  let cur := cur.skip (cur.rest.takeWhile isBlank).length
  let cur := if cur.rest.head? == some '#' then cur.skipLine else cur
  if !cur.rest.head?.all isBreak then none
  else
    let cur := cur.advance
    let base := least - 1
    let (breaks, widest, cur) ← blockGap? (explicit.map (base + ·)) fuel cur [] 0
    let indent := (explicit.map (base + ·)).getD (max 1 (max widest least))
    let (text, cur) ← blockLines? isFolded chomping indent fuel cur false [] breaks
    return (text, cur.allowKey true)

end Yaml
end MetricRelay
