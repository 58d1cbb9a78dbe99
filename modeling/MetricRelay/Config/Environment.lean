import MetricRelay.Config.Value
import MetricRelay.Number.Reading
import MetricRelay.Text.Blank
import MetricRelay.Text.Uppercase

/-!
# Configuration from environment variables

A variable belongs to a configuration if its name starts with a stem: an upper-case word and an
underscore, compared without regard to the case of ASCII letters.  What follows the stem is the
path of the value, with two underscores between its names (`Environment.path?`).
`Environment.variableFor` is the way back: the variable that sets a key.

The text of a variable is a value in a small notation (`Environment.value?`) with tables in
braces, lists in brackets and text in quotes.  Text that does not follow the notation to its
end stands for itself.
-/

namespace MetricRelay
namespace Environment

/-- The stem that a word gives; it ends with an underscore. -/
def stem (word : String) : String :=
  if word.endsWith "_" then uppercase word else uppercase word ++ "_"

/-- The variable that sets a key, whose names are separated by points. -/
def variableFor (stem key : String) : String :=
  stem ++ uppercase (String.ofList (key.toList.flatMap fun c =>
    if c = '.' then ['_', '_'] else [c]))

/-! ### Names -/

/-- The text behind a start that differs at most in the case of ASCII letters. -/
def dropStart? : List Char → List Char → Option (List Char)
  | [], cs => some cs
  | _ :: _, [] => none
  | s :: start, c :: cs => if s.toLower = c.toLower then dropStart? start cs else none

/-- The names separated by points and pairs of underscores. -/
def names : List Char → List (List Char)
  | [] => [[]]
  | '_' :: '_' :: cs => [] :: names cs
  | c :: cs =>
    if c = '.' then [] :: names cs
    else
      match names cs with
      | [] => [[c]]
      | name :: rest => (c :: name) :: rest

/-- The path that a variable sets, if it belongs to the stem and no name on the path is
empty. -/
def path? (stem name : String) : Option (List String) := do
  let cs ← dropStart? stem.toList (trimBlank name.toList)
  let path := names ((trimBlank cs).map Char.toLower)
  if path.any List.isEmpty then none else some (path.map String.ofList)

/-! ### Values -/

def isSpace (c : Char) : Bool :=
  c == ' ' || c == '\t' || c == '\n' || c == '\r' || c == '\x0c'

def skipSpace (cs : List Char) : List Char := cs.dropWhile isSpace

/-- The character ends a bare value. -/
def isSeparator (c : Char) : Bool :=
  c == '\x7b' || c == '\x7d' || c == '[' || c == ']' || c == ','

/-- The character may stand in a key without quotes. -/
def isKeyChar (c : Char) : Bool :=
  c.isAlphanum || c == '_' || c == '-'

/-- Why text is no value in the notation. -/
inductive Fault where
  /-- It does not follow the notation. -/
  | irregular
  /-- Text in quotes is cut within a character. -/
  | cut
deriving DecidableEq, Repr

/-- Gives what was read, or says why nothing could be read. -/
abbrev Parsed := Except Fault

/-- What was read, if anything. -/
def Parsed.ofOption {α : Type} : Option α → Parsed α
  | some a => .ok a
  | none => .error .irregular

/-- Text from behind its opening quote on up to the closing one, and what follows that. -/
def upToQuote? : List Char → Option (List Char × List Char)
  | [] => none
  | '"' :: cs => some ([], cs)
  | '\\' :: c :: cs => do
    let (t, rest) ← upToQuote? cs
    return ('\\' :: c :: t, rest)
  | c :: cs => do
    let (t, rest) ← upToQuote? cs
    return (c :: t, rest)

/-- The character may stand in quotes. -/
def isQuotable (c : Char) : Bool := c == '\t' || (' ' ≤ c && c != '\x7f')

/-- The text that characters in quotes stand for. -/
def unescaped? : List Char → Option (List Char)
  | [] => some []
  | '\\' :: 'u' :: a :: b :: c :: d :: cs => do
    let e ← charInBase16? [a, b, c, d]
    return e :: (← unescaped? cs)
  | '\\' :: 'U' :: a :: b :: c :: d :: e :: f :: g :: h :: cs => do
    let e ← charInBase16? [a, b, c, d, e, f, g, h]
    return e :: (← unescaped? cs)
  | '\\' :: c :: cs => do
    let e ← ([('"', '"'), ('\\', '\\'), ('b', '\x08'), ('f', '\x0c'), ('n', '\n'), ('r', '\r'),
      ('t', '\t')] : List (Char × Char)).lookup c
    return e :: (← unescaped? cs)
  | c :: cs => if isQuotable c then (c :: ·) <$> unescaped? cs else none

/-- The characters at the start that take up so many bytes. -/
def takeBytes? : Nat → List Char → Option (List Char)
  | 0, _ => some []
  | _, [] => none
  | n, c :: cs => if c.utf8Size ≤ n then (c :: ·) <$> takeBytes? (n - c.utf8Size) cs else none

/-- The text that characters in quotes stand for.  Of the text before the first backslash only
as many bytes count as there are characters in it. -/
def textInQuotes (cs : List Char) : Parsed (List Char) :=
  let plain := cs.takeWhile (· != '\\')
  if !plain.all isQuotable then .error .irregular
  else if plain.length = cs.length then .ok cs
  else
    match takeBytes? plain.length plain with
    | none => .error .cut
    | some kept => do return kept ++ (← Parsed.ofOption (unescaped? (cs.drop plain.length)))

/-- Text from behind its opening quote on, and what follows the closing one. -/
def quotedText (cs : List Char) : Parsed (List Char × List Char) := do
  let (t, rest) ← Parsed.ofOption (upToQuote? cs)
  return (← textInQuotes t, rest)

/-- A bare value: a number with a point, an integer of 64 bits, or text. -/
def bareValue (cs : List Char) : Config :=
  let text := Config.text (String.ofList cs)
  let numeral? := if cs.contains '.' then Numeral.read? cs else none
  match numeral? with
  | some n => .float n.toBinary64
  | none =>
    match splitSign cs with
    | (isNegative, digits) =>
      match natInBase? 10 digits with
      | none => text
      | some n =>
        if isNegative then (if Int64.minValue.toInt ≤ -n then .signed (-n) else text)
        else if n < UInt64.size then .unsigned n
        else text

/-- A key of a table and the equals sign behind it. -/
def key (cs : List Char) : Parsed (String × List Char) := do
  let (key, cs) ← match skipSpace cs with
    | '"' :: cs => quotedText cs
    | cs =>
      let key := cs.takeWhile isKeyChar
      if key.isEmpty then .error .irregular else .ok (key, cs.drop key.length)
  match skipSpace cs with
  | '=' :: cs => return (String.ofList key, cs)
  | _ => .error .irregular

mutual

/-- A value, and what follows it and the space behind it. -/
def valueFrom : Nat → List Char → Parsed (Config × List Char)
  | 0, _ => .error .irregular
  | fuel + 1, cs =>
    let value : Parsed (Config × List Char) := match skipSpace cs with
      | 't' :: 'r' :: 'u' :: 'e' :: cs => .ok (.bool true, cs)
      | 'f' :: 'a' :: 'l' :: 's' :: 'e' :: cs => .ok (.bool false, cs)
      | '\x7b' :: '\x7d' :: cs => .ok (.table [], cs)
      | '\x7b' :: cs => do
        let (entries, cs) ← entriesFrom fuel cs
        return (.table (Keyed.ofList entries), cs)
      | '[' :: ']' :: cs => .ok (.list [], cs)
      | '[' :: cs => do
        let (items, cs) ← itemsFrom fuel cs
        return (.list items, cs)
      | '"' :: cs => do
        let (t, cs) ← quotedText cs
        return (.text (String.ofList t), cs)
      | '\'' :: c :: '\'' :: cs => .ok (.char c, cs)
      | '\'' :: _ => .error .irregular
      | cs =>
        let bare := cs.takeWhile (!isSeparator ·)
        .ok (bareValue (trimBlank bare), cs.drop bare.length)
    value.map fun (c, rest) => (c, skipSpace rest)

/-- The items of a list up to its closing bracket, in front of which a comma may stand. -/
def itemsFrom : Nat → List Char → Parsed (List Config × List Char)
  | 0, _ => .error .irregular
  | fuel + 1, cs => do
    let (c, rest) ← valueFrom fuel cs
    match rest with
    | ']' :: rest => return ([c], rest)
    | ',' :: ']' :: rest => return ([c], rest)
    | ',' :: rest =>
      let (items, rest) ← itemsFrom fuel rest
      return (c :: items, rest)
    | _ => .error .irregular

/-- The entries of a table up to its closing brace, in front of which a comma may stand. -/
def entriesFrom : Nat → List Char → Parsed (List (String × Config) × List Char)
  | 0, _ => .error .irregular
  | fuel + 1, cs => do
    let (key, cs) ← key cs
    let (c, rest) ← valueFrom fuel cs
    match rest with
    | '\x7d' :: rest => return ([(key, c)], rest)
    | ',' :: '\x7d' :: rest => return ([(key, c)], rest)
    | ',' :: rest =>
      let (entries, rest) ← entriesFrom fuel rest
      return ((key, c) :: entries, rest)
    | _ => .error .irregular

end

/-- The value of a variable, unless its text is cut within a character. -/
def value? (text : String) : Option Config :=
  match valueFrom (2 * text.length + 2) text.toList with
  | .ok (c, []) => some c
  | .error .cut => none
  | _ => some (.text text)

/-! ### Environments -/

/-- The variable can be set. -/
def isVariable (name text : String) : Bool :=
  !name.isEmpty && !name.contains '=' && !name.contains '\x00' && !text.contains '\x00'

/-- The environment with a variable set.  A variable keeps its place when it is set again. -/
def set (environment : List (String × String)) (name text : String) : List (String × String) :=
  if (environment.lookup name).isSome then
    environment.map fun (n, t) => if n = name then (n, text) else (n, t)
  else environment ++ [(name, text)]

/-- The environment that a sequence of settings makes. -/
def ofSettings (settings : List (String × String)) : List (String × String) :=
  settings.foldl (fun environment (name, text) => set environment name text) []

/-- The configuration that the variables of an environment give, or a variable whose text is cut
within a character.  Of two values at one path the later one stays. -/
def layer (stem : String) (environment : List (String × String)) : Except String Config :=
  environment.foldlM (fun c (name, text) =>
    match path? stem name with
    | none => .ok c
    | some path =>
      match value? text with
      | none => .error name
      | some value => .ok (c.overlay .replace (value.nested path))) (.table [])

end Environment
end MetricRelay
