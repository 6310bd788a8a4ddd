import JsonSchema.Json.TypeName
import JsonSchema.Uri.Target
/-!
# Errors in schemas

Building a validator fails if some part of a schema is malformed, or if a reference leads nowhere.
-/

namespace JsonSchema

/-- What is wrong with a part of a schema. -/
inductive Flaw where
  /-- A schema is neither an object nor a truth value. -/
  | notSchema (found : TypeName)
  /-- A value that must be a string is none. -/
  | notString
  /-- A value that must be an array is none. -/
  | notArray
  /-- A value that must be an object is none. -/
  | notObject
  /-- A value that must be a truth value is none. -/
  | notBoolean
  /-- A value that must be a number is none. -/
  | notNumber
  /-- A number that must be positive is not. -/
  | notPositive
  /-- A value that must be a count is none. -/
  | notCount
  /-- A value that must be an array of strings is none. -/
  | notStrings
  /-- A value that must be an array of schemas, and not an empty one, is none. -/
  | notSchemas
  /-- A value of `items` is neither a schema nor an array. -/
  | notItems
  /-- A value in `dependencies` is neither a schema nor an array. -/
  | notDependency
  /-- A value of `type` is neither a string nor an array. -/
  | notTypes
  /-- A type name in an array is no string. -/
  | typeNotString
  /-- There is no type of that name. -/
  | unknownType (name : String)
  /-- The text is no regular expression. -/
  | pattern (text : String)
  /-- The text of an `$id` or `$ref` cannot be used. -/
  | uri (cause : UriError)
  /-- Two documents that differ have the same URI. -/
  | duplicateDocument
deriving DecidableEq, Repr

/-- What is wrong. -/
def Flaw.message : Flaw → String
  | notSchema found => s!"expected an object or boolean schema, found {found.text}"
  | notString => "must be a string"
  | notArray => "must be an array"
  | notObject => "must be an object"
  | notBoolean => "must be a boolean"
  | notNumber => "must be a number"
  | notPositive => "must be greater than zero"
  | notCount => "must be a non-negative integer"
  | notStrings => "must be an array of strings"
  | notSchemas => "must be a non-empty array of schemas"
  | notItems => "must be a schema or an array of schemas"
  | notDependency => "must be a schema or an array of property names"
  | notTypes => "must be a string or an array of strings"
  | typeNotString => "type names must be strings"
  | unknownType name => s!"unknown type name '{name}'"
  | pattern text => s!"invalid regular expression '{text}'"
  | uri cause => cause.message
  | duplicateDocument => "duplicate document URI with different content"

/-- Why no validator can be built. -/
inductive SchemaError where
  /-- A part of a schema is malformed. -/
  | malformed (location : String) (flaw : Flaw)
  /-- References lead to places that do not exist. -/
  | unresolved (uris : List String)
deriving DecidableEq, Repr

/-- What is wrong with the schemas. -/
def SchemaError.message : SchemaError → String
  | malformed location flaw => s!"malformed schema at {location}: {flaw.message}"
  | unresolved uris => "unresolvable schema references: " ++ String.intercalate ", " uris

end JsonSchema
