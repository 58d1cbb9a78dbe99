import MetricRelay.Config.Value
import MetricRelay.Text.Quoted

/-!
# Typed reading

A `Decoder` reads a value of some type off a configuration.  Nothing is converted: text is not
a number and a number is not text, and only an integer may stand where a floating-point number
is expected.  A value of another shape is a mismatch, reported with the path at which it
stands; a value of the right shape that is out of range is rejected without details.

A structure is read off a table, by the names of its fields and in their ascending order, or off
a list, in the order of declaration.  The first field that cannot be read is reported.  Fields
that are not given keep their defaults, and names that are no fields are ignored.
-/

namespace MetricRelay

/-- Why a value could not be read. -/
inductive FieldError where
  /-- A required field is not there. -/
  | missing (field : String)
  /-- The value at the path has another shape than expected. -/
  | mismatch (path : List String) (expected found : String)
  /-- The value has the right shape but none of the values of the type. -/
  | rejected
deriving DecidableEq, Repr

/-- The error seen from outside the part of the given name. -/
def FieldError.under (name : String) : FieldError → FieldError
  | .mismatch path expected found => .mismatch (name :: path) expected found
  | e => e

/-- Reads a value of a type. -/
abbrev Decoder (α : Type) := Config → Except FieldError α

namespace Decoder

variable {α : Type}

/-- What stands in place of what was expected. -/
def described : Config → String
  | .null => "unit"
  | .bool b => s!"bool {b}"
  | .unsigned n =>
    if n < UInt64.size then s!"unsigned int `{n}`" else s!"integer `{n}` as u128"
  | .signed i =>
    if Int64.minValue.toInt ≤ i then "signed int `" ++ intText i ++ "`"
    else "integer `" ++ intText i ++ "` as i128"
  | .float x => "float `" ++ x.plainText ++ "`"
  | .text s => "string " ++ quoted s
  | .char c => "string " ++ quoted (String.singleton c)
  | .list _ => "sequence"
  | .table _ => "map"

/-- The refusal of a value where another shape was expected. -/
def mismatch (expected : String) (c : Config) : Except FieldError α :=
  .error (.mismatch [] expected (described c))

/-- The reading of a part, with errors seen from outside. -/
def under (name : String) : Except FieldError α → Except FieldError α
  | .ok a => .ok a
  | .error e => .error (e.under name)

/-! ### Scalars -/

def text : Decoder String
  | .text s => .ok s
  | .char c => .ok (String.singleton c)
  | c => mismatch "a string" c

def bool : Decoder Bool
  | .bool b => .ok b
  | c => mismatch "a boolean" c

/-- The integer of at most 64 bits that a value is. -/
def integer? : Config → Option Int
  | .unsigned n => if n < UInt64.size then some n else none
  | .signed i => if Int64.minValue.toInt ≤ i then some i else none
  | _ => none

/-- An integer of a type with the given name and range. -/
def integer (name : String) (least greatest : Int) : Decoder Int := fun c =>
  match integer? c with
  | some i => if least ≤ i ∧ i ≤ greatest then .ok i else .error .rejected
  | none => mismatch name c

def unsigned16 : Decoder UInt16 := fun c =>
  (integer "u16" 0 (UInt16.size - 1) c).map (·.toNat.toUInt16)

def unsigned32 : Decoder UInt32 := fun c =>
  (integer "u32" 0 (UInt32.size - 1) c).map (·.toNat.toUInt32)

def unsigned64 : Decoder UInt64 := fun c =>
  (integer "u64" 0 (UInt64.size - 1) c).map (·.toNat.toUInt64)

/-- A number of things in memory. -/
def size : Decoder UInt64 := fun c =>
  (integer "usize" 0 (UInt64.size - 1) c).map (·.toNat.toUInt64)

def signed64 : Decoder Int64 := fun c =>
  (integer "i64" Int64.minValue.toInt Int64.maxValue.toInt c).map Int64.ofInt

/-- A floating-point number, or the one nearest to an integer. -/
def float : Decoder Binary64
  | .float x => .ok x
  | c =>
    match integer? c with
    | some i => .ok (Binary64.ofInt i)
    | none => mismatch "f64" c

/-! ### Lists, tables and choices -/

/-- The readings of the items from a position on. -/
def items (item : Decoder α) (position : Nat) : List Config → Except FieldError (List α)
  | [] => .ok []
  | c :: rest => do
    let a ← under (toString position) (item c)
    return a :: (← items item (position + 1) rest)

def list (item : Decoder α) : Decoder (List α)
  | .list cs => items item 0 cs
  | c => mismatch "a sequence" c

/-- The readings of the entries of a table. -/
def entries (value : Decoder α) :
    List (String × Config) → Except FieldError (List (String × α))
  | [] => .ok []
  | (name, c) :: rest => do
    let a ← under name (value c)
    return (name, a) :: (← entries value rest)

def table (value : Decoder α) : Decoder (List (String × α))
  | .table cs => entries value cs
  | c => mismatch "a map" c

/-- One of several named choices, whose name is no single character.  A choice may also be given
as a table in which the name has no value. -/
def choice (name : String) (choices : List (String × α)) : Decoder α
  | .text s =>
    match choices.lookup s with
    | some a => .ok a
    | none => .error .rejected
  | .table [] => mismatch "enum" (.table [])
  | .table ((s, c) :: _) =>
    match choices.lookup s, c with
    | none, _ => .error .rejected
    | some a, .null => .ok a
    | some _, c => under s (mismatch "unit" c)
  | c => mismatch ("enum " ++ name) c

/-! ### Structures -/

/-- The values given for fields: for each the name under which it stands, the name of the field
and the value. -/
def given? (names : List String) : Config → Option (List (String × String × Config))
  | .table entries =>
    some (entries.filterMap fun (name, c) =>
      if names.contains name then some (name, name, c) else none)
  | .list items =>
    some ((names.zip items).zipIdx.map fun ((field, c), position) =>
      (toString position, field, c))
  | _ => none

/-- A structure with the given fields.  `set` reads the value of one field into the structure,
which starts from its defaults. -/
def fields (name : String) (names : List String) (start : α)
    (set : String → Config → α → Except FieldError α) : Decoder α := fun c =>
  match given? names c with
  | none => mismatch ("struct " ++ name) c
  | some given =>
    given.foldlM (fun a (place, field, c) => under place (set field c a)) start

/-! ### Untyped values -/

mutual

/-- Any value: a number that is not finite becomes null, and an integer beyond 64 bits is
rejected. -/
def untyped : Config → Except FieldError Config
  | .unsigned n => if n < UInt64.size then .ok (.unsigned n) else .error .rejected
  | .signed i => if Int64.minValue.toInt ≤ i then .ok (.signed i) else .error .rejected
  | .float x => .ok (if x.isFinite then .float x else .null)
  | .char c => .ok (.text (String.singleton c))
  | .list cs => .list <$> untypedItems cs
  | .table cs => .table <$> untypedEntries cs
  | c => .ok c

def untypedItems : List Config → Except FieldError (List Config)
  | [] => .ok []
  | c :: rest => do return (← untyped c) :: (← untypedItems rest)

def untypedEntries : List (String × Config) → Except FieldError (List (String × Config))
  | [] => .ok []
  | (name, c) :: rest => do return (name, ← untyped c) :: (← untypedEntries rest)

end

end Decoder

end MetricRelay
