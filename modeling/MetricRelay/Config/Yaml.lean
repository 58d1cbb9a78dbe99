import MetricRelay.Config.Value
import MetricRelay.Number.Reading
import MetricRelay.Text.Utf8
import MetricRelay.Yaml.Document

/-!
# Configuration from YAML

A plain scalar is null, a boolean or a number if it is written like one, and text otherwise;
quoted scalars and block scalars are text.  Digits that start with a superfluous zero write no
number, and a number in base two, eight or sixteen has its base in front.  A tag of the core
schema decides instead of the spelling.  A tag of an application is the key under which its
value stands in a table.

Aliases are followed as values are read, so that a node may count many times; how often is
limited in proportion to the size of the document.
-/

namespace MetricRelay
namespace Config
namespace YamlScalar

/-! ### Spellings -/

def isNull (s : String) : Bool := s.isEmpty || ["null", "Null", "NULL", "~"].contains s

def bool? (s : String) : Option Bool :=
  if ["true", "True", "TRUE"].contains s then some true
  else if ["false", "False", "FALSE"].contains s then some false
  else none

/-- Digits behind a zero, perhaps with a sign. -/
def hasLeadingZero (cs : List Char) : Bool :=
  let cs := match cs with
    | '-' :: cs => cs
    | '+' :: cs => cs
    | cs => cs
  match cs with
  | '0' :: c :: cs => (c :: cs).all Char.isDigit
  | _ => false

/-- The natural number written with its base in front. -/
def based? : List Char → Option Nat
  | '0' :: 'x' :: cs => natInBase? 16 cs
  | '0' :: 'o' :: cs => natInBase? 8 cs
  | '0' :: 'b' :: cs => natInBase? 2 cs
  | _ => none

/-- The natural number without a sign. -/
def natural? (cs : List Char) : Option Nat := based? cs <|> natInBase? 10 cs

/-- An integer of up to 128 bits. -/
def integer? (cs : List Char) : Option Config :=
  if hasLeadingZero cs then none
  else
    let unsigned (cs : List Char) : Option Config := do
      let n ← natural? cs
      if n < pow2 128 then some (.unsigned n) else none
    match cs with
    | '+' :: cs => unsigned cs
    | '-' :: cs => do
      let n ← natural? cs
      if n ≤ pow2 127 then some (.signed (-n)) else none
    | cs => unsigned cs

/-- The number that a name stands for. -/
def named? (s : String) : Option Binary64 :=
  if [".nan", ".NaN", ".NAN"].contains s then some Binary64.nan
  else if [".inf", ".Inf", ".INF", "+.inf", "+.Inf", "+.INF"].contains s then
    some (Binary64.infinity false)
  else if ["-.inf", "-.Inf", "-.INF"].contains s then some (Binary64.infinity true)
  else none

/-- A floating-point number: one that has a name, or one that is written out and finite. -/
def float? (cs : List Char) : Option Binary64 :=
  match named? (String.ofList cs) with
  | some x => some x
  | none => do
    let x := (← Numeral.read? cs).toBinary64
    if x.isFinite then some x else none

/-- The value of a plain scalar. -/
def plain (s : String) : Config :=
  let cs := s.toList
  if isNull s then .null
  else
    match bool? s with
    | some b => .bool b
    | none =>
      match integer? cs with
      | some c => c
      | none =>
        match if hasLeadingZero cs then none else float? cs with
        | some x => .float x
        | none => .text s

/-- The tag that the core schema has for a kind of scalars. -/
def coreTag (name : String) : Bytes := Utf8.encode ("tag:yaml.org,2002:" ++ name)

/-- The value of a scalar without a tag. -/
def untagged (style : Yaml.Style) (s : String) : Config :=
  if style = .plain then plain s else .text s

/-- The value of a scalar.  Only a tag of the core schema has to agree with it. -/
def value? (tag : Option Bytes) (style : Yaml.Style) (s : String) : Option Config :=
  match tag with
  | none => some (untagged style s)
  | some tag =>
    if tag.head? = some 0x21 then some (untagged style s)
    else if tag = coreTag "bool" then .bool <$> bool? s
    else if tag = coreTag "int" then integer? s.toList
    else if tag = coreTag "float" then .float <$> float? s.toList
    else if tag = coreTag "null" then (if isNull s && !s.isEmpty then some .null else none)
    else some (.text s)

/-- The scalar is a natural number of 64 bits. -/
def isIdentity (tag : Option Bytes) (style : Yaml.Style) (s : String) : Bool :=
  (style = .plain || (style = .literal && tag = some (coreTag "int"))) &&
    match integer? s.toList with
    | some (.unsigned n) => n < UInt64.size
    | _ => false

end YamlScalar

/-! ### Nodes -/

/-- The key that a tag is for its value, if it is the tag of an application. -/
def keyOfTag? : Bytes → Option String
  | 0x21 :: name => Utf8.decode? (if name.isEmpty then [0x21] else name)
  | _ => none

/-- A value under the key that its tag is. -/
def tagged (tag : Option Bytes) (c : Config) : Config :=
  match tag >>= keyOfTag? with
  | some key => c.nested (pathOfKey key)
  | none => c

/-- Follows aliases, as often as the number says. -/
abbrev Following := StateT Nat Option

/-- The node that a node stands for, with the nodes of all slots. -/
def followed (slots : List (Nat × Yaml.Node)) : Yaml.Node → Following Yaml.Node
  | .reference slot => do
    match ← get with
    | 0 => failure
    | count + 1 =>
      set count
      slots.lookup slot
  | node => return node

/-- The name that a key gives to its entry: the text of a scalar, however it is written. -/
def entryName (slots : List (Nat × Yaml.Node)) (key : Yaml.Node) : Following String := do
  match ← followed slots key with
  | .scalar _ _ s => return s
  | _ => failure

/-- The value of a node nested at most `depth` deep. -/
def ofNode? (slots : List (Nat × Yaml.Node)) (depth : Nat) (node : Yaml.Node) :
    Following Config := do
  match ← followed slots node with
  | .scalar p style s => return tagged p.tag (← YamlScalar.value? p.tag style s)
  | .sequence p items =>
    match depth with
    | 0 => failure
    | depth + 1 => return tagged p.tag (.list (← items.mapM (ofNode? slots depth)))
  | .mapping p entries =>
    match depth with
    | 0 => failure
    | depth + 1 =>
      let entries ← entries.filterMapM fun (key, node) => do
        let name ← entryName slots key
        if name = identityName then
          match ← followed slots node with
          | .scalar p style s =>
            if YamlScalar.isIdentity p.tag style s then return none else failure
          | _ => failure
        else return some (name, ← ofNode? slots depth node)
      return tagged p.tag (ofEntries entries)
  | .reference _ => failure

/-- How deeply a document may be nested. -/
def maxYamlDepth : Nat := 128

/-- How often aliases are followed, for each unit of the weight of a document. -/
def maxFollowed : Nat := 100

/-- The configuration that a document is.  It is a table, and stands for no other value; nothing
at all is an empty table. -/
def ofDocument? : Option Yaml.Node → Option Config
  | none => some (.table [])
  | some (.scalar _ .plain "") => some (.table [])
  | some (.mapping p root) => do
    let document := Yaml.Node.mapping p root
    let slots := document.occupants.reverse
    let read := root.mapM fun (key, node) => do
      let name ← entryName slots key
      return (name, ← ofNode? slots (maxYamlDepth - 1) node)
    let (entries, _) ← read.run (maxFollowed * document.weight)
    return .table (Keyed.ofList entries)
  | some _ => none

/-- The configuration that the bytes of a YAML file hold. -/
def ofYamlFile? (bs : Bytes) : Option Config := do
  ofDocument? (← Yaml.Node.ofChars? (← Utf8.decode? bs).toList)

end Config
end MetricRelay
