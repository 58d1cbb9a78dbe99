import MetricRelay.Yaml.Lexer
import MetricRelay.Yaml.Node

/-!
# The document of a YAML stream

`Node.ofTokens?` reads the tokens of a stream with at most one document.  Every collection has a
token where it starts and one where it ends, with one exception: the list that is the value of
a key may have its dashes in the column of the key, and then ends with anything that is no dash.

What is not written where a key or a value has to stand is an empty scalar.
-/

namespace MetricRelay
namespace Yaml

/-- What is known while a document is read. -/
structure Reading where
  tokens : List Token
  /-- What the handles of tags stand for. -/
  handles : List (String × Bytes)
  /-- The slots of the anchors so far, the latest one first. -/
  slots : List (String × Nat) := []

/-- Reads a part of a document. -/
abbrev Reader := StateT Reading Option

namespace Reader

/-- The next token. -/
def peek : Reader (Option Token) := return (← get).tokens.head?

/-- Goes over the next token. -/
def skip : Reader Unit := modify fun r => { r with tokens := r.tokens.drop 1 }

/-- Goes over the next token if it is the given one. -/
def accept (token : Token) : Reader Bool := do
  if (← peek) == some token then
    skip
    return true
  else return false

/-! ### Properties and aliases -/

/-- A slot for an anchor: its number is that of the names used before. -/
def takeSlot (name : String) : Reader Nat := do
  let slots := (← get).slots
  modify fun r => { r with slots := (name, slots.length) :: slots.filter (·.1 != name) }
  return slots.length

/-- The tag that a handle and a suffix make up. -/
def fullTag (handle : String) (suffix : Bytes) : Reader Bytes := do
  if handle.isEmpty then return suffix
  else
    match (← get).handles.lookup handle with
    | some expansion => return expansion ++ suffix
    | none => failure

/-- An anchor and a tag, in either order, as far as they are there. -/
def properties : Reader Properties := do
  match (← get).tokens with
  | .anchor name :: .tag handle suffix :: _ =>
    skip; skip
    return { tag := some (← fullTag handle suffix), slot := some (← takeSlot name) }
  | .tag handle suffix :: .anchor name :: _ =>
    skip; skip
    return { tag := some (← fullTag handle suffix), slot := some (← takeSlot name) }
  | .anchor name :: _ =>
    skip
    return { slot := some (← takeSlot name) }
  | .tag handle suffix :: _ =>
    skip
    return { tag := some (← fullTag handle suffix) }
  | _ => return {}

/-- The node that an alias stands for. -/
def reference (name : String) : Reader Node := do
  match (← get).slots.lookup name with
  | some slot => return .reference slot
  | none => failure

/-! ### Nodes -/

/-- A node of which there are only properties, if there are any. -/
def blank (p : Properties) : Reader Node := if p.isEmpty then failure else return .blank p

/-- What stands before one of the tokens, perhaps nothing. -/
def part (ends : List Token) (node : Reader Node) : Reader Node := do
  if (← peek).any ends.contains then return .blank {} else node

/-- Whether something follows in brackets or braces; `isFirst` says that nothing came before. -/
def follows (isFirst : Bool) (closing : Token) : Reader Bool := do
  if ← accept closing then return false
  else if isFirst then return true
  else if ← accept .comma then return !(← accept closing)
  else failure

mutual

/-- A node.  Only where `isBlock` says so it may be a collection in block style, and only where
`mayBeDash` says so a list without a column of its own. -/
def node (isBlock mayBeDash : Bool) : Nat → Reader Node
  | 0 => failure
  | fuel + 1 => do
    if let some (.reference name) := ← peek then
      skip
      reference name
    else
      let p ← properties
      match ← peek with
      | some (.scalar style text) =>
        skip
        return .scalar p style text
      | some .dash =>
        if mayBeDash then return .sequence p (← dashedItems fuel) else blank p
      | some .bracket =>
        skip
        return .sequence p (← flowItems true fuel)
      | some .brace =>
        skip
        return .mapping p (← flowEntries true fuel)
      | some .blockSequence =>
        if isBlock then
          skip
          return .sequence p (← blockItems fuel)
        else blank p
      | some .blockMapping =>
        if isBlock then
          skip
          return .mapping p (← blockEntries fuel)
        else blank p
      | _ => blank p
  termination_by structural fuel => fuel

/-- The items of a list with a column of its own. -/
def blockItems : Nat → Reader (List Node)
  | 0 => failure
  | fuel + 1 => do
    if ← accept .dash then
      let item ← part [.dash, .blockEnd] (node true false fuel)
      return item :: (← blockItems fuel)
    else if ← accept .blockEnd then return []
    else failure
  termination_by structural fuel => fuel

/-- The items of a list in the column of its key. -/
def dashedItems : Nat → Reader (List Node)
  | 0 => failure
  | fuel + 1 => do
    if ← accept .dash then
      let item ← part [.dash, .key, .value, .blockEnd] (node true false fuel)
      return item :: (← dashedItems fuel)
    else return []
  termination_by structural fuel => fuel

/-- The entries of a mapping in block style. -/
def blockEntries : Nat → Reader (List (Node × Node))
  | 0 => failure
  | fuel + 1 => do
    if ← accept .key then
      let key ← part [.key, .value, .blockEnd] (node true true fuel)
      if ← accept .value then
        let value ← part [.key, .value, .blockEnd] (node true true fuel)
        return (key, value) :: (← blockEntries fuel)
      else return (key, .blank {}) :: (← blockEntries fuel)
    else if ← accept .blockEnd then return []
    else failure
  termination_by structural fuel => fuel

/-- The items up to a closing bracket.  A key among them is a mapping of one entry. -/
def flowItems (isFirst : Bool) : Nat → Reader (List Node)
  | 0 => failure
  | fuel + 1 => do
    if ← follows isFirst .closingBracket then
      let item ← if ← accept .key then pair fuel else node false false fuel
      return item :: (← flowItems false fuel)
    else return []
  termination_by structural fuel => fuel

/-- A mapping of one entry, behind the token of its key.  If no key is written, the token behind
it does not count. -/
def pair : Nat → Reader Node
  | 0 => failure
  | fuel + 1 => do
    let isBlank := (← peek).any [Token.value, .comma, .closingBracket].contains
    if isBlank then skip
    let key ← if isBlank then pure (.blank {}) else node false false fuel
    if ← accept .value then
      return .mapping {} [(key, ← part [.comma, .closingBracket] (node false false fuel))]
    else return .mapping {} [(key, .blank {})]
  termination_by structural fuel => fuel

/-- The entries up to a closing brace.  A node on its own is a key without a value. -/
def flowEntries (isFirst : Bool) : Nat → Reader (List (Node × Node))
  | 0 => failure
  | fuel + 1 => do
    if ← follows isFirst .closingBrace then
      if ← accept .key then
        let key ← part [.value, .comma, .closingBrace] (node false false fuel)
        if ← accept .value then
          let value ← part [.comma, .closingBrace] (node false false fuel)
          return (key, value) :: (← flowEntries false fuel)
        else return (key, .blank {}) :: (← flowEntries false fuel)
      else
        let key ← node false false fuel
        return (key, .blank {}) :: (← flowEntries false fuel)
    else return []
  termination_by structural fuel => fuel

end

/-! ### Documents -/

/-- The node of a document, and the marks of its end; nothing else may follow.  Only behind a
mark of the start there may be no node. -/
def document (isMarked : Bool) : Reader Node := do
  let isBlank := (← peek).all (· == .documentEnd)
  let fuel := 2 * (← get).tokens.length + 2
  let node ← if isMarked && isBlank then pure (.blank {}) else node true false fuel
  if (← get).tokens.all (· == .documentEnd) then return node else failure

end Reader

/-- What handles stand for that no directive declares. -/
def commonHandles : List (String × Bytes) :=
  [("!", Utf8.encode "!"), ("!!", Utf8.encode "tag:yaml.org,2002:")]

/-- What the directives before a document declare, and the tokens behind them.  A version is
given once at most, and a handle is declared once. -/
def directives? (hasVersion : Bool) (handles : List (String × Bytes)) :
    List Token → Option (List (String × Bytes) × List Token)
  | .version major minor :: tokens =>
    if hasVersion || major != 1 || (minor != 1 && minor != 2) then none
    else directives? true handles tokens
  | .handle name expansion :: tokens =>
    if (handles.lookup name).isSome then none
    else directives? hasVersion ((name, expansion) :: handles) tokens
  | tokens => some (handles, tokens)

/-- The node of the document that the tokens of a stream make up; there is none if there are no
tokens.  Behind directives the start of a document has to be marked. -/
def Node.ofTokens? (tokens : List Token) : Option (Option Node) := do
  let (handles, content) ← directives? false [] tokens
  let handles := handles ++ commonHandles
  match content with
  | .documentStart :: content =>
    let (node, _) ← (Reader.document true).run { tokens := content, handles }
    return some node
  | [] => if tokens.isEmpty then return none else none
  | _ =>
    if content.length = tokens.length then
      let (node, _) ← (Reader.document false).run { tokens, handles }
      return some node
    else none

/-- The node of the document in a text, none if there is no document in it. -/
def Node.ofChars? (cs : List Char) : Option (Option Node) := do
  Node.ofTokens? (← Token.ofChars? cs)

end Yaml
end MetricRelay
