import MetricRelay.Text.Utf8
import MetricRelay.Yaml.Token

/-!
# YAML nodes

What a YAML document says before its scalars are given a type: scalars keep their text and the
way in which they are written, and collections keep their order.

A node with an anchor has a slot, and an alias is a reference to a slot.  A slot may be taken
more than once; what stands last in the document has it (`Node.occupants`).
-/

namespace MetricRelay
namespace Yaml

/-- What may stand before the content of a node. -/
structure Properties where
  /-- The slot of the anchor. -/
  slot : Option Nat := none
  tag : Option Bytes := none
deriving DecidableEq, Repr

def Properties.isEmpty (p : Properties) : Bool := p.slot.isNone && p.tag.isNone

inductive Node where
  | scalar (p : Properties) (style : Style) (text : String)
  | sequence (p : Properties) (items : List Node)
  | mapping (p : Properties) (entries : List (Node × Node))
  | reference (slot : Nat)
deriving Repr, Inhabited

namespace Node

/-- A node of which nothing is written but its properties. -/
def blank (p : Properties) : Node := .scalar p .plain ""

def properties : Node → Properties
  | scalar p _ _ => p
  | sequence p _ => p
  | mapping p _ => p
  | reference _ => {}

mutual

/-- How much a node takes up: one for a scalar or a reference, and two for a collection beside
its parts. -/
def weight : Node → Nat
  | scalar _ _ _ => 1
  | sequence _ items => 2 + itemsWeight items
  | mapping _ entries => 2 + entriesWeight entries
  | reference _ => 1

def itemsWeight : List Node → Nat
  | [] => 0
  | node :: items => node.weight + itemsWeight items

def entriesWeight : List (Node × Node) → Nat
  | [] => 0
  | (key, node) :: entries => key.weight + node.weight + entriesWeight entries

end

/-- A node in its slot, if it has one, before others. -/
def occupying (node : Node) (others : List (Nat × Node)) : List (Nat × Node) :=
  match node.properties.slot with
  | none => others
  | some slot => (slot, node) :: others

mutual

/-- The nodes that take slots, each one before its parts. -/
def occupants (node : Node) : List (Nat × Node) :=
  match node with
  | scalar p style text => occupying (.scalar p style text) []
  | sequence p items => occupying (.sequence p items) (itemsOccupants items)
  | mapping p entries => occupying (.mapping p entries) (entriesOccupants entries)
  | reference _ => []

def itemsOccupants : List Node → List (Nat × Node)
  | [] => []
  | node :: items => occupants node ++ itemsOccupants items

def entriesOccupants : List (Node × Node) → List (Nat × Node)
  | [] => []
  | (key, node) :: entries => occupants key ++ occupants node ++ entriesOccupants entries

end

end Node

end Yaml
end MetricRelay
