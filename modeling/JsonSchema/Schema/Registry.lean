import JsonSchema.Schema.Node
/-!
# The registry

All compiled schemas stand in one registry, in the order in which they were compiled, and are
referred to by their index. There is one node for each key: compiling the schema at a place again
gives the node that is already there. Nodes are never moved or removed, and only their references
change, each once, when they are linked.

The nodes are not searched for a key. The registry keeps a second store, which tells the index for
each key, and both stores grow together.
-/

namespace JsonSchema

/-- The compiled schemas. -/
@[ext]
structure Registry where
  /-- The nodes, in the order in which they were added. -/
  nodes : Array Node
  /-- The index of the node with a key. -/
  byUri : Members Nat

namespace Registry

/-- The registry without nodes. -/
def empty : Registry := { nodes := #[], byUri := [] }

instance : Inhabited Registry := ⟨empty⟩

/-- The number of nodes. -/
def size (registry : Registry) : Nat := registry.nodes.size

/-- The node with an index. -/
def get? (registry : Registry) (index : Nat) : Option Node := registry.nodes[index]?

/-- The index of the node with a key. -/
def lookup (registry : Registry) (uri : String) : Option Nat := registry.byUri.get? uri

/-- Puts a node last, and its key into the index. -/
def push (registry : Registry) (node : Node) : Registry where
  nodes := registry.nodes.push node
  byUri := registry.byUri.set node.uri registry.size

/-- Adds a node unless there is one with its key. Gives the index of the node with that key. -/
def add (registry : Registry) (node : Node) : Nat × Registry :=
  match registry.lookup node.uri with
  | some index => (index, registry)
  | none => (registry.size, registry.push node)

/-! ## Linking -/

/-- The reference of a node, if it is not linked yet. -/
def openRef? (node : Node) : Option Reference :=
  node.ref?.filter fun ref => ref.resolved.isNone

/-- Links a reference, if it is not linked yet and there is a node where it leads. -/
def linkRef (registry : Registry) (ref : Reference) : Reference :=
  if ref.resolved.isNone then { ref with resolved := registry.lookup ref.target.key } else ref

/-- Links the reference of a node. -/
def linkNode (registry : Registry) (node : Node) : Node :=
  match node.body with
  | .bool _ => node
  | .keywords k => { node with body := .keywords { k with ref := k.ref.map registry.linkRef } }

/-- Where the reference of a node leads, if it is not linked yet and there is no node there. -/
def missing? (registry : Registry) (node : Node) : Option Target :=
  match openRef? node with
  | none => none
  | some ref => if (registry.lookup ref.target.key).isNone then some ref.target else none

/-- Links all references that lead to nodes. Gives the targets of the others, in the order of the
nodes that refer to them. -/
def link (registry : Registry) : List Target × Registry :=
  (registry.nodes.toList.filterMap registry.missing?,
    { registry with nodes := registry.nodes.map registry.linkNode })

end Registry

end JsonSchema
