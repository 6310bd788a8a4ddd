import JsonSchema.Text.Percent
/-!
# YAML nodes

A document is a tree of nodes. A node may have a tag, and it may have a name, by which an alias
elsewhere in the document repeats it. Scalars are kept as text; what they mean is decided later.
-/

namespace JsonSchema.Yaml

/-- A tag that has a meaning for the node that bears it. -/
inductive Tag where
  /-- The scalar is `null`. -/
  | null
  /-- The scalar is a truth value. -/
  | bool
  /-- The scalar is an integer. -/
  | int
  /-- The scalar is a binary64 number. -/
  | float
  /-- The scalar is a string. -/
  | string
  /-- A tag of the document's own. It marks the node and does not change its meaning. -/
  | custom (name : String)
deriving DecidableEq, Repr

namespace Tag

/-- The tag that a text stands for, in which bytes may be given by two hexadecimal digits behind a
`%`. A tag of the document's own starts with an exclamation mark; if the rest is not encoded in
UTF-8 it is left aside. Scalars with any other tag are strings. -/
def ofText? (text : List Char) : Option Tag :=
  match Percent.decodeText? text with
  | none => if (Percent.decode text).head? = some 0x21 then none else some string
  | some decoded =>
    match decoded.toList with
    | ['!'] => some (custom "!")
    | '!' :: name => some (custom (String.ofList name))
    | _ =>
      if decoded = "tag:yaml.org,2002:null" then some null
      else if decoded = "tag:yaml.org,2002:bool" then some bool
      else if decoded = "tag:yaml.org,2002:int" then some int
      else if decoded = "tag:yaml.org,2002:float" then some float
      else some string

end Tag

/-- What may stand in front of the content of a node. -/
structure Properties (α : Type) where
  /-- The name of the node. -/
  anchor : Option α := none
  /-- The tag of the node. -/
  tag : Option Tag := none

/-- A node. Names of nodes are of type `α`. -/
inductive Node (α : Type) where
  /-- A repetition of the node with a name. -/
  | alias (name : α)
  /-- A scalar. It is plain if it has neither quotes nor an indicator. -/
  | scalar (properties : Properties α) (text : String) (plain : Bool)
  /-- A sequence. -/
  | sequence (properties : Properties α) (items : List (Node α))
  /-- A mapping. -/
  | mapping (properties : Properties α) (entries : List (Node α × Node α))

namespace Node

variable {α : Type}

/-- A node without content. -/
def empty (properties : Properties α) : Node α := .scalar properties "" true

/-- The name of a node. -/
def anchor : Node α → Option α
  | .alias _ => none
  | .scalar properties .. => properties.anchor
  | .sequence properties _ => properties.anchor
  | .mapping properties _ => properties.anchor

mutual

/-- The size of a node: one for a scalar and an alias, and two for a collection, one at its start
and one at its end. -/
def size : Node α → Nat
  | .sequence _ items => sizeOfItems items + 2
  | .mapping _ entries => sizeOfEntries entries + 2
  | _ => 1

/-- The size of all elements. -/
def sizeOfItems : List (Node α) → Nat
  | [] => 0
  | node :: rest => node.size + sizeOfItems rest

/-- The size of all keys and values. -/
def sizeOfEntries : List (Node α × Node α) → Nat
  | [] => 0
  | (key, value) :: rest => key.size + value.size + sizeOfEntries rest

end

mutual

/-- The nodes that have names, in the order in which they start. -/
def anchored (node : Node α) : List (α × Node α) :=
  (node.anchor.map (·, node)).toList ++
  match node with
  | .sequence _ items => anchoredItems items
  | .mapping _ entries => anchoredEntries entries
  | _ => []

/-- The nodes that have names in the elements. -/
def anchoredItems : List (Node α) → List (α × Node α)
  | [] => []
  | node :: rest => node.anchored ++ anchoredItems rest

/-- The nodes that have names in the keys and values. -/
def anchoredEntries : List (Node α × Node α) → List (α × Node α)
  | [] => []
  | (key, value) :: rest => key.anchored ++ value.anchored ++ anchoredEntries rest

end

end Node

end JsonSchema.Yaml
