import JsonSchema.Json.Value
/-!
# Type names

The seven names that the `type` keyword may use. Every value has exactly one of the six *shapes*;
`integer` is no shape but a refinement of `number`, so `3` and `3.0` both are integers.
-/

namespace JsonSchema

/-- A name of the `type` keyword. -/
inductive TypeName where
  | null
  | boolean
  | number
  /-- A number without a fractional part. -/
  | integer
  | string
  | array
  | object
deriving DecidableEq, Repr

namespace TypeName

/-- All type names. -/
def all : List TypeName := [null, boolean, number, integer, string, array, object]

/-- The spelling of a type name. -/
def text : TypeName → String
  | null => "null"
  | boolean => "boolean"
  | number => "number"
  | integer => "integer"
  | string => "string"
  | array => "array"
  | object => "object"

/-- The type name spelt `name`. -/
def ofText? (name : String) : Option TypeName :=
  all.find? fun t => t.text == name

/-- The shape of a value. It is never `integer`. -/
def shapeOf : Value → TypeName
  | .null => null
  | .bool _ => boolean
  | .number _ => number
  | .string _ => string
  | .array _ => array
  | .object _ => object

/-- Whether a value is an instance of the type. -/
def accepts : TypeName → Value → Bool
  | integer, .number n => decide n.IsWhole
  | integer, _ => false
  | t, v => t == shapeOf v

end TypeName

end JsonSchema
