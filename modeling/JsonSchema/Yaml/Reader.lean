import JsonSchema.Yaml.Anchor
import JsonSchema.Yaml.Document
import JsonSchema.Yaml.Meaning
/-!
# Reading YAML text

A document is read as a tree of nodes, and then each alias is replaced by the value of the node that
it leads to. Collections may be nested up to `maxNesting` deep after that, and a document may
follow at most `jumpsPerNode` aliases for each unit of its size, so a short text cannot stand for a
huge value, nor a node contain itself.
-/

namespace JsonSchema.Yaml

/-- How many aliases may be followed for each unit of the size of a document. -/
def jumpsPerNode : Nat := 100

/-- A computation that may follow so many more aliases. -/
abbrev Expansion := StateT Nat Option

namespace Expansion

/-- Counts an alias. -/
def jump : Expansion Unit := fun left =>
  match left with
  | 0 => none
  | left + 1 => some ((), left)

section

/-! `item` gives the value of a node inside a collection. Its first argument says whether the tag of
the node is passed over. -/

variable (item : Bool → Node Nat → Expansion YamlValue)

/-- The values of the entries of a mapping, in addition to those that are known. No key may occur
twice. Under a mapping with a tag of its own the tags of keys are passed over. -/
def entries (tagged : Bool) (done : List (YamlValue × YamlValue)) :
    List (Node Nat × Node Nat) → Expansion (List (YamlValue × YamlValue))
  | [] => return done
  | (key, value) :: rest => do
    let k ← item tagged key
    if done.any fun entry => entry.1.same k then failure
    let v ← item false value
    entries tagged (done ++ [(k, v)]) rest

end

/-- The tag that marks a value, if the node has one. -/
def mark? (tagged : Bool) (properties : Properties Nat) : Option String :=
  match tagged, properties.tag with
  | false, some (.custom name) => some name
  | _, _ => none

/-- The value of a collection or scalar. `nested` gives the values of the nodes inside a collection;
it is absent where collections are nested too deep. -/
def content (nested : Option (Bool → Node Nat → Expansion YamlValue)) (tagged : Bool) :
    Node Nat → Expansion YamlValue
  | .alias _ => failure
  | .scalar properties text plain =>
    liftM (meaning? (if tagged then none else properties.tag) text plain)
  | .sequence _ items => do
    let item ← liftM nested
    return .sequence (← items.mapM (item false))
  | .mapping _ pairs => do
    let item ← liftM nested
    return .mapping (← entries item tagged [] pairs)

/-- The properties of a node. -/
def properties : Node Nat → Properties Nat
  | .alias _ => {}
  | .scalar properties .. => properties
  | .sequence properties _ => properties
  | .mapping properties _ => properties

/-- The value of a node that is no alias, with its tag. -/
def marked (nested : Option (Bool → Node Nat → Expansion YamlValue)) (tagged : Bool)
    (node : Node Nat) : Expansion YamlValue :=
  match mark? tagged (properties node) with
  | some name => return .tagged name (← content nested true node)
  | none => content nested tagged node

/-- The value of a node. -/
def value (document : Node Nat) (nested : Option (Bool → Node Nat → Expansion YamlValue))
    (tagged : Bool) : Node Nat → Expansion YamlValue
  | .alias slot => do
    jump
    marked nested false (← liftM (document.inSlot? slot))
  | node => marked nested tagged node

/-- The value of a node with collections nested at most as deep as the second argument says. -/
def within (document : Node Nat) : Nat → Bool → Node Nat → Expansion YamlValue
  | 0 => value document none
  | nesting + 1 => value document (some (within document nesting))

end Expansion

/-- The value of a document. -/
def Node.value? (document : Node String) : Option YamlValue := do
  let document ← document.withSlots?
  (Expansion.within document maxNesting false document).run' (jumpsPerNode * document.size)

/-- Reads a whole text as one YAML value. -/
def YamlValue.ofText? (text : String) : Option YamlValue := do
  let tokens ← tokens? text
  let document ← Document.ofTokens? tokens
  document.value?

end JsonSchema.Yaml
