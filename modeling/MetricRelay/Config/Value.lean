import MetricRelay.Keyed
import MetricRelay.Number.Numeral

/-!
# Configuration values

Whatever its source, a configuration is a tree of tables, lists and scalars.  The entries of a
table stand in ascending order of their names.

Two trees are laid over each other by `Config.overlay`: tables are united name by name, at
every depth, and of two other values the later one stays.  Only for two lists there is a choice
(`ListRule`): the later list may also be put behind the earlier one.  `Config.at?` follows a
path of names into nested tables.

Inside a file a table may stand for another value (`Config.ofEntries`).
-/

namespace MetricRelay

/-- A configuration, or a part of one. -/
inductive Config where
  | null
  | bool (b : Bool)
  /-- An integer that was written without a sign. -/
  | unsigned (n : Nat)
  /-- An integer that was written with a sign. -/
  | signed (i : Int)
  | float (x : Binary64)
  | text (s : String)
  /-- A character, which counts as text wherever text is read. -/
  | char (c : Char)
  | list (items : List Config)
  | table (entries : List (String × Config))
deriving Repr, Inhabited

/-- What becomes of two lists laid over each other. -/
inductive ListRule where
  /-- The later list is put behind the earlier one. -/
  | append
  /-- The later list stays. -/
  | replace
deriving DecidableEq, Repr

namespace Config

mutual

/-- A value with a later one laid over it. -/
def overlay (rule : ListRule) : Config → Config → Config
  | .table earlier, .table later => .table (overlayEntries rule earlier later)
  | .list earlier, .list later =>
    match rule with
    | .append => .list (earlier ++ later)
    | .replace => .list later
  | _, later => later

/-- The entries of a table with later ones laid over them. -/
def overlayEntries (rule : ListRule) (earlier : List (String × Config)) :
    List (String × Config) → List (String × Config)
  | [] => earlier
  | (name, value) :: later =>
    let value := match Keyed.get? name earlier with
      | none => value
      | some old => overlay rule old value
    overlayEntries rule (Keyed.put name value earlier) later

end

/-! ### Paths -/

/-- The names between the points of a key. -/
def namesOfKey (key : String) : List String :=
  (key.toList.splitOnP (· == '.')).map String.ofList

/-- The path that a key describes; an empty name ends it. -/
def pathOfKey (key : String) : List String := (namesOfKey key).takeWhile (· != "")

/-- The value at a path of names.  Only tables have parts. -/
def at? : Config → List String → Option Config
  | c, [] => some c
  | .table entries, name :: path =>
    match Keyed.get? name entries with
    | none => none
    | some c => c.at? path
  | _, _ :: _ => none

/-- The tables nested along a path around a value. -/
def nested (value : Config) : List String → Config
  | [] => value
  | name :: path => .table [(name, nested value path)]

/-- What is nested along a path is found at its end. -/
theorem at?_nested (value : Config) (path : List String) :
    (nested value path).at? path = some value := by
  induction path with
  | nil => simp [nested, at?]
  | cons name path ih => simp [nested, at?, Keyed.get?, ih, Std.ReflCmp.compare_self]

/-! ### Tables that stand for other values -/

/-- The name under which a table gives a number to the value it stands for.  The number has no
meaning here. -/
def identityName : String := "___figment_value_id"

/-- The name under which a table has the value it stands for. -/
def contentName : String := "___figment_value_value"

/-- What the entries of a table inside a file make up: the value that the table stands for, or
the table itself.  Of entries with one name the last one counts. -/
def ofEntries (entries : List (String × Config)) : Config :=
  match entries.reverse.lookup contentName with
  | some content => content
  | none => .table (Keyed.ofList entries)

end Config

end MetricRelay
