import JsonSchema.Json.TypeName
import JsonSchema.Regex.Basic
import JsonSchema.Uri.Target
/-!
# Compiled schemas

A compiled schema is a node. A node never holds another one: it refers to its sub-schemas by their
indices in a registry, so schemas can be shared, and references can form cycles. A keyword that is
absent from a schema puts no constraint on instances.
-/

namespace JsonSchema

/-- A `$ref`: where it leads, and the index of the node there once it is known. -/
structure Reference where
  /-- Where it leads. -/
  target : Target
  /-- The node there, once the reference is linked. -/
  resolved : Option Nat

/-- The two forms of `items`. -/
inductive Items where
  /-- One schema for all elements. -/
  | all (schema : Nat)
  /-- A schema for each of the first elements. The others are left to `additionalItems`. -/
  | positional (schemas : List Nat)
deriving DecidableEq, Repr

/-- The two forms of a member of `dependencies`. -/
inductive Dependency where
  /-- The object must satisfy a schema, too. -/
  | schema (schema : Nat)
  /-- The object must have further properties. -/
  | required (names : List String)
deriving DecidableEq, Repr

/-- The keywords that apply to numbers. -/
structure NumberRules where
  /-- `multipleOf` -/
  multipleOf : Option Double := none
  /-- `maximum` -/
  maximum : Option Double := none
  /-- `minimum` -/
  minimum : Option Double := none
  /-- `exclusiveMaximum` -/
  exclusiveMaximum : Option Double := none
  /-- `exclusiveMinimum` -/
  exclusiveMinimum : Option Double := none

/-- The keywords that apply to strings. Lengths count characters. -/
structure StringRules where
  /-- `maxLength` -/
  maxLength : Option Nat := none
  /-- `minLength` -/
  minLength : Option Nat := none
  /-- `pattern` -/
  pattern : Option Pattern := none

/-- The keywords that apply to arrays. -/
structure ArrayRules where
  /-- `items` -/
  items : Option Items := none
  /-- `additionalItems` -/
  additionalItems : Option Nat := none
  /-- `maxItems` -/
  maxItems : Option Nat := none
  /-- `minItems` -/
  minItems : Option Nat := none
  /-- `uniqueItems` -/
  uniqueItems : Bool := false
  /-- `contains` -/
  contains : Option Nat := none

/-- The keywords that apply to objects. -/
structure ObjectRules where
  /-- `maxProperties` -/
  maxProperties : Option Nat := none
  /-- `minProperties` -/
  minProperties : Option Nat := none
  /-- `required` -/
  required : Option (List String) := none
  /-- `properties` -/
  properties : Option (Members Nat) := none
  /-- `patternProperties` -/
  patternProperties : Option (List (Pattern × Nat)) := none
  /-- `additionalProperties` -/
  additionalProperties : Option Nat := none
  /-- `dependencies` -/
  dependencies : Option (List (String × Dependency)) := none
  /-- `propertyNames` -/
  propertyNames : Option Nat := none

/-- The keywords that combine schemas. -/
structure Combinators where
  /-- `not` -/
  negated : Option Nat := none
  /-- `if` -/
  condition : Option Nat := none
  /-- `then` -/
  onPass : Option Nat := none
  /-- `else` -/
  onFail : Option Nat := none
  /-- `allOf` -/
  allOf : Option (List Nat) := none
  /-- `anyOf` -/
  anyOf : Option (List Nat) := none
  /-- `oneOf` -/
  oneOf : Option (List Nat) := none

/-- The keywords of a schema. -/
structure Keywords where
  /-- `$ref` -/
  ref : Option Reference := none
  /-- `type` -/
  types : Option (List TypeName) := none
  /-- `const` -/
  const : Option Value := none
  /-- `enum` -/
  enum : Option (List Value) := none
  /-- The keywords that combine schemas. -/
  combinators : Combinators := {}
  /-- The keywords that apply to numbers. -/
  numbers : NumberRules := {}
  /-- The keywords that apply to strings. -/
  strings : StringRules := {}
  /-- The keywords that apply to arrays. -/
  arrays : ArrayRules := {}
  /-- The keywords that apply to objects. -/
  objects : ObjectRules := {}

/-- What a schema consists of. -/
inductive Body where
  /-- `true` accepts every instance, and `false` accepts none. -/
  | bool (accepts : Bool)
  /-- Keywords. -/
  | keywords (keywords : Keywords)

/-- A compiled schema. -/
structure Node where
  /-- The key of the place where the schema stands. -/
  uri : String
  /-- What the schema consists of. -/
  body : Body

/-- The `$ref` of a schema, if it has one. -/
def Node.ref? (node : Node) : Option Reference :=
  match node.body with
  | .bool _ => none
  | .keywords k => k.ref

end JsonSchema
