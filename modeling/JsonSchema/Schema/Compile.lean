import JsonSchema.Schema.Reading
import JsonSchema.Schema.Registry
/-!
# Compiling a schema

A schema is compiled together with all schemas inside it, those inside first. Every one of them is
added to the registry under the key of its place. The `$id` of a document gives its base; an `$id`
further inside has no meaning. A keyword that is present must have the right form, and the first
one that has not ends the compilation; the nodes that were added before stay.
-/

namespace JsonSchema

/-- A computation that adds nodes to a registry and may find the schema malformed. -/
abbrev Compile := ExceptT SchemaError (StateM Registry)

namespace Compile

/-- Adds a node unless there is one with its key, and gives the index of the node with that key. -/
def register (node : Node) : Compile Nat :=
  ExceptT.mk fun registry =>
    let (index, registry) := registry.add node
    (.ok index, registry)

/-- Compiles nothing and gives what has been read. -/
def liftExcept {α : Type} (a : Except SchemaError α) : Compile α :=
  liftM a

/-! ## Keywords without schemas -/

/-- The error of a keyword. -/
def flawed (here : Target) (keyword : String) (flaw : Flaw) : SchemaError :=
  .malformed (here.below [keyword]).key flaw

/-- Reads the value of a keyword, if it is present. -/
def optional {α : Type} (members : Members Value) (keyword : String)
    (read : Value → Except Flaw α) (here : Target) : Except SchemaError (Option α) :=
  match members.get? keyword with
  | none => .ok none
  | some v =>
    match read v with
    | .ok a => .ok (some a)
    | .error flaw => .error (flawed here keyword flaw)

/-- A string. -/
def asString : Value → Except Flaw String
  | .string s => .ok s
  | _ => .error .notString

/-- An array. -/
def asArray : Value → Except Flaw (List Value)
  | .array items => .ok items
  | _ => .error .notArray

/-- A truth value. -/
def asBool : Value → Except Flaw Bool
  | .bool b => .ok b
  | _ => .error .notBoolean

/-- A number. -/
def asDouble : Value → Except Flaw Double
  | .number n => .ok n.toDouble
  | _ => .error .notNumber

/-- A number greater than zero. -/
def asPositive (v : Value) : Except Flaw Double := do
  let x ← asDouble v
  if 0 < x.units then .ok x else .error .notPositive

/-- A whole number that is not negative. -/
def asCount : Value → Except Flaw Nat
  | .number n =>
    match n.toCount? with
    | some count => .ok count
    | none => .error .notCount
  | _ => .error .notCount

/-- An array of strings. -/
def asStrings : Value → Except Flaw (List String)
  | .array items => items.mapM fun
    | .string s => .ok s
    | _ => .error .notStrings
  | _ => .error .notStrings

/-- A regular expression. -/
def asPattern (text : String) : Except Flaw Pattern :=
  match Pattern.ofText? text with
  | some pattern => .ok pattern
  | none => .error (.pattern text)

/-- The type of a given name. -/
def asTypeName : Value → Except Flaw TypeName
  | .string name =>
    match TypeName.ofText? name with
    | some t => .ok t
    | none => .error (.unknownType name)
  | _ => .error .typeNotString

/-- One type name or an array of them. -/
def asTypes : Value → Except Flaw (List TypeName)
  | .array names => names.mapM asTypeName
  | .string name => (asTypeName (.string name)).map ([·])
  | _ => .error .notTypes

/-- A reference in a document with the given base. -/
def asReference (base : BaseUri) (v : Value) : Except Flaw Reference := do
  let text ← asString v
  match base.resolve text with
  | .ok target => .ok { target, resolved := none }
  | .error cause => .error (.uri cause)

/-- Reads the keywords that apply to numbers. -/
def numberRules (here : Target) (members : Members Value) : Except SchemaError NumberRules := do
  let multipleOf ← optional members "multipleOf" asPositive here
  let maximum ← optional members "maximum" asDouble here
  let minimum ← optional members "minimum" asDouble here
  let exclusiveMaximum ← optional members "exclusiveMaximum" asDouble here
  let exclusiveMinimum ← optional members "exclusiveMinimum" asDouble here
  return { multipleOf, maximum, minimum, exclusiveMaximum, exclusiveMinimum }

/-- Reads the keywords that apply to strings. -/
def stringRules (here : Target) (members : Members Value) : Except SchemaError StringRules := do
  let maxLength ← optional members "maxLength" asCount here
  let minLength ← optional members "minLength" asCount here
  let pattern ← optional members "pattern" (fun v => asString v >>= asPattern) here
  return { maxLength, minLength, pattern }

/-! ## Keywords with schemas -/

/-- Reads the schema that is the value of a keyword, if it is present. -/
def schemaOf (here : Target) (members : Members Value) (keyword : String) :
    Reading (Option Nat) :=
  match members.get? keyword with
  | none => return none
  | some v => return some (← .sub (here.below [keyword]) v)

/-- Reads the schemas of an array at a place. -/
def schemasAt (here : Target) (schemas : List Value) : Reading (List Nat) :=
  schemas.zipIdx.mapM fun (v, i) => .sub (here.below [toString i]) v

/-- Reads the schemas of a keyword that takes a list of them, if it is present. -/
def schemasOf (here : Target) (members : Members Value) (keyword : String) :
    Reading (Option (List Nat)) :=
  match members.get? keyword with
  | none => return none
  | some (.array (v :: rest)) => return some (← schemasAt (here.below [keyword]) (v :: rest))
  | some _ => .failed (flawed here keyword .notSchemas)

/-- Reads `items`. -/
def itemsOf (here : Target) (members : Members Value) : Reading (Option Items) :=
  match members.get? "items" with
  | none => return none
  | some (.array schemas) =>
    return some (.positional (← schemasAt (here.below ["items"]) schemas))
  | some (.object m) => return some (.all (← .sub (here.below ["items"]) (.object m)))
  | some (.bool b) => return some (.all (← .sub (here.below ["items"]) (.bool b)))
  | some _ => .failed (flawed here "items" .notItems)

/-- The members of the value of a keyword, if it is present. -/
def membersOf (here : Target) (members : Members Value) (keyword : String) :
    Except SchemaError (Option (Members Value)) :=
  match members.get? keyword with
  | none => .ok none
  | some (.object m) => .ok (some m)
  | some _ => .error (flawed here keyword .notObject)

/-- Reads one of `properties`. -/
def propertyAt (here : Target) (name : String) (v : Value) : Reading (String × Nat) :=
  return (name, ← .sub (here.below ["properties", name]) v)

/-- Reads one of `patternProperties`. -/
def patternPropertyAt (here : Target) (text : String) (v : Value) : Reading (Pattern × Nat) :=
  match asPattern text with
  | .error flaw => .failed (flawed (here.below ["patternProperties"]) text flaw)
  | .ok pattern => return (pattern, ← .sub (here.below ["patternProperties", text]) v)

/-- Reads one of `dependencies`. -/
def dependencyAt (here : Target) (name : String) (v : Value) : Reading (String × Dependency) :=
  let schema : Reading (String × Dependency) :=
    return (name, .schema (← .sub (here.below ["dependencies", name]) v))
  match v with
  | .array _ =>
    match asStrings v with
    | .ok names => return (name, .required names)
    | .error flaw => .failed (flawed (here.below ["dependencies"]) name flaw)
  | .object _ => schema
  | .bool _ => schema
  | _ => .failed (flawed (here.below ["dependencies"]) name .notDependency)

/-- Reads the members of a keyword one by one, if it is present. -/
def eachMember {α : Type} (entry : String → Value → Reading α) (here : Target)
    (members : Members Value) (keyword : String) : Reading (Option (List α)) := do
  match ← membersOf here members keyword with
  | none => return none
  | some m => return some (← m.mapM fun (name, v) => entry name v)

/-- Reads the keywords that combine schemas. -/
def combinators (here : Target) (members : Members Value) : Reading Combinators := do
  let negated ← schemaOf here members "not"
  let condition ← schemaOf here members "if"
  let onPass ← schemaOf here members "then"
  let onFail ← schemaOf here members "else"
  let allOf ← schemasOf here members "allOf"
  let anyOf ← schemasOf here members "anyOf"
  let oneOf ← schemasOf here members "oneOf"
  return { negated, condition, onPass, onFail, allOf, anyOf, oneOf }

/-- Reads the keywords that apply to arrays. -/
def arrayRules (here : Target) (members : Members Value) : Reading ArrayRules := do
  let items ← itemsOf here members
  let additionalItems ← schemaOf here members "additionalItems"
  let maxItems ← optional members "maxItems" asCount here
  let minItems ← optional members "minItems" asCount here
  let uniqueItems := (← optional members "uniqueItems" asBool here).getD false
  let contains ← schemaOf here members "contains"
  return { items, additionalItems, maxItems, minItems, uniqueItems, contains }

/-- Reads the keywords that apply to objects. -/
def objectRules (here : Target) (members : Members Value) : Reading ObjectRules := do
  let maxProperties ← optional members "maxProperties" asCount here
  let minProperties ← optional members "minProperties" asCount here
  let required ← optional members "required" asStrings here
  let properties ← eachMember (propertyAt here) here members "properties"
  let patternProperties ← eachMember (patternPropertyAt here) here members "patternProperties"
  let additionalProperties ← schemaOf here members "additionalProperties"
  let dependencies ← eachMember (dependencyAt here) here members "dependencies"
  let propertyNames ← schemaOf here members "propertyNames"
  return {
    maxProperties, minProperties, required, properties, patternProperties, additionalProperties
    dependencies, propertyNames }

/-- Reads all keywords. -/
def keywords (here : Target) (members : Members Value) : Reading Keywords := do
  let ref ← optional members "$ref" (asReference here.base) here
  let types ← optional members "type" asTypes here
  let enum ← optional members "enum" asArray here
  let combinators ← combinators here members
  let numbers ← numberRules here members
  let strings ← stringRules here members
  let arrays ← arrayRules here members
  let objects ← objectRules here members
  return {
    ref, types, const := members.get? "const", enum, combinators, numbers, strings, arrays
    objects }

/-- The key of a place, or a mere `#` if that is empty. -/
def shownKey (here : Target) : String :=
  if here.key.isEmpty then "#" else here.key

/-- The error of a value that is no schema. -/
def notSchema (here : Target) (v : Value) : SchemaError :=
  .malformed (shownKey here) (.notSchema (TypeName.shapeOf v))

/-- Compiles a schema at a place. `compile` compiles the schemas inside it. -/
def schema (compile : Target → Value → Compile Nat) (here : Target) (v : Value) : Compile Nat :=
  match v with
  | .bool b => register { uri := here.key, body := .bool b }
  | .object members => do
    let k ← (keywords here members).run compile
    register { uri := here.key, body := .keywords k }
  | v => throw (notSchema here v)

/-! ## Documents -/

/-- Compiles the schema at a place. The first argument is at least the height of the value, so the
values without elements and members are reached before it is used up. -/
def within : Nat → Target → Value → Compile Nat
  | 0 => schema fun here v => throw (notSchema here v)
  | height + 1 => schema (within height)

/-- The base of a document: the one its `$id` gives, or else the one it is given. -/
def documentBase (base : BaseUri) (document : Value) : Except SchemaError BaseUri :=
  match document with
  | .object members => do
    let asBase (v : Value) : Except Flaw BaseUri := do
      let id ← asString v
      match BaseUri.ofId id with
      | .ok base => .ok base
      | .error cause => .error (.uri cause)
    let own ← optional members "$id" asBase { base, pointer := .root }
    return own.getD base
  | _ => .ok base

/-- Compiles the schema at a place, and gives the base of the document with its index. Only at the
root of a document an `$id` is looked for. -/
def placed (here : Target) (v : Value) : Compile (BaseUri × Nat) := do
  let base ← liftExcept (if here.pointer.isRoot then documentBase here.base v else .ok here.base)
  let index ← within v.height { here with base } v
  return (base, index)

end Compile

/-- A compiled document. -/
structure Root where
  /-- The base of the document. -/
  base : BaseUri
  /-- The index of its schema. -/
  index : Nat

/-- Compiles a document. -/
def compileRoot (document : Value) : Compile Root := do
  let (base, index) ← Compile.placed { base := .anonymous, pointer := .root } document
  return { base, index }

/-- Compiles a schema that stands at a place in a document. -/
def compileAt (here : Target) (v : Value) : Compile Nat :=
  Prod.snd <$> Compile.placed here v

end JsonSchema
