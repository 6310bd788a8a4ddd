import JsonSchema.Json.Value
import JsonSchema.Yaml.Node
/-!
# Anchors

The nodes with names are put into numbered slots, and an alias leads to a slot. A node takes the
slot whose number tells how many different names there have been before it; if the slot was taken
already, the earlier node makes way, for the aliases before it, too. An alias leads to the slot of
the last node before it that has the name.
-/

namespace JsonSchema.Yaml.Node

/-- The slot of each name so far. -/
abbrev Slots := Members Nat

/-- Gives a node its slot. -/
def enter (properties : Properties String) : StateT Slots Option (Properties Nat) := fun slots =>
  match properties.anchor with
  | none => some ({ anchor := none, tag := properties.tag }, slots)
  | some name =>
    some ({ anchor := some slots.length, tag := properties.tag }, slots.set name slots.length)

/-- The slot of a name, if it has one. -/
def slot? (name : String) : StateT Slots Option Nat := fun slots =>
  (slots.get? name).map (·, slots)

mutual

/-- Writes slots for names. Each name must have been given before it is used. -/
def withSlots : Node String → StateT Slots Option (Node Nat)
  | .alias name => return .alias (← slot? name)
  | .scalar properties text plain => return .scalar (← enter properties) text plain
  | .sequence properties items => do
    let properties ← enter properties
    return .sequence properties (← withSlotsItems items)
  | .mapping properties entries => do
    let properties ← enter properties
    return .mapping properties (← withSlotsEntries entries)

/-- Writes slots for names in the elements. -/
def withSlotsItems : List (Node String) → StateT Slots Option (List (Node Nat))
  | [] => return []
  | node :: rest => return (← withSlots node) :: (← withSlotsItems rest)

/-- Writes slots for names in the keys and values. -/
def withSlotsEntries :
    List (Node String × Node String) → StateT Slots Option (List (Node Nat × Node Nat))
  | [] => return []
  | (key, value) :: rest => do
    let key ← withSlots key
    let value ← withSlots value
    return (key, value) :: (← withSlotsEntries rest)

end

/-- Writes slots for names in a whole document. -/
def withSlots? (document : Node String) : Option (Node Nat) :=
  (withSlots document).run' []

/-- The node in a slot: the last one that took it. -/
def inSlot? (document : Node Nat) (slot : Nat) : Option (Node Nat) :=
  document.anchored.reverse.lookup slot

end JsonSchema.Yaml.Node
