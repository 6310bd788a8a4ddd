import JsonSchema.Proofs.Evaluation.Task
import JsonSchema.Schema.Compile

/-!
# Schemas read directly

A schema can be evaluated without being compiled: each keyword is read from the members of the
schema itself, at the moment when it is needed. A sub-schema is referred to by its place, which is
that of the schema and the way further down, and a `$ref` by the place that it leads to.

Only the values of keywords without schemas are read as the compiler reads them: numbers, counts,
type names, regular expressions and references.
-/

namespace JsonSchema.Direct

/-- A sub-schema and the value put to it. The sub-schema stands where the way to it leads. -/
def branch (here : Target) (tokens : List String) (token : Option String) (v : Value) :
    Branch Target :=
  { tokens, token, schema := here.below tokens, value := v }

/-- The value of a keyword, if it is present and has the right form. -/
def given {α : Type} (members : Members Value) (keyword : String) (read : Value → Except Flaw α) :
    Option α :=
  (members.get? keyword).bind fun v => (read v).toOption

/-- The members of a keyword that takes an object. -/
def entries (members : Members Value) (keyword : String) : Members Value :=
  match members.get? keyword with
  | some (.object m) => m
  | _ => []

variable (here : Target) (members : Members Value)

/-! ## Keywords without schemas -/

/-- The keywords that apply to numbers. -/
def numberRules : NumberRules where
  multipleOf := given members "multipleOf" Compile.asPositive
  maximum := given members "maximum" Compile.asDouble
  minimum := given members "minimum" Compile.asDouble
  exclusiveMaximum := given members "exclusiveMaximum" Compile.asDouble
  exclusiveMinimum := given members "exclusiveMinimum" Compile.asDouble

/-- The keywords that apply to strings. -/
def stringRules : StringRules where
  maxLength := given members "maxLength" Compile.asCount
  minLength := given members "minLength" Compile.asCount
  pattern := given members "pattern" fun v => Compile.asString v >>= Compile.asPattern

/-! ## Keywords that combine schemas -/

/-- The branch of a keyword that takes a schema. -/
def branchOf? (keyword : String) (v : Value) : Option (Branch Target) :=
  (members.get? keyword).map fun _ => branch here [keyword] none v

/-- The branches of a keyword that takes an array of schemas. -/
def listBranches (keyword : String) (schemas : List Value) (v : Value) : List (Branch Target) :=
  schemas.zipIdx.map fun (_, i) => branch here [keyword, toString i] none v

/-- The task of `not`. -/
def negatedTasks (v : Value) : List (Task Target) :=
  match branchOf? here members "not" v with
  | none => []
  | some b => [.refute b ["not"]]

/-- The task of `if`, `then` and `else`. -/
def conditionalTasks (v : Value) : List (Task Target) :=
  match branchOf? here members "if" v with
  | none => []
  | some b => [.choose b (branchOf? here members "then" v) (branchOf? here members "else" v)]

/-- The tasks of `allOf`, `anyOf` and `oneOf`. -/
def listTasks (v : Value) : List (Task Target) :=
  (match members.get? "allOf" with
    | some (.array schemas) => (listBranches here "allOf" schemas v).map .descend
    | _ => []) ++
  (match members.get? "anyOf" with
    | some (.array schemas) => [.some (listBranches here "anyOf" schemas v) ["anyOf"]]
    | _ => []) ++
  (match members.get? "oneOf" with
    | some (.array schemas) => [.one (listBranches here "oneOf" schemas v) ["oneOf"]]
    | _ => [])

/-! ## Arrays -/

/-- The branches of `items` and `additionalItems`. -/
def elementBranches (items : List Value) : List (Branch Target) :=
  match members.get? "items" with
  | none => []
  | some (.array schemas) =>
    ((schemas.zip items).zipIdx.map fun ((_, v), i) =>
      branch here ["items", toString i] (some (toString i)) v) ++
    (items.zipIdx.drop schemas.length).flatMap fun (v, i) =>
      (members.get? "additionalItems").toList.map fun _ =>
        branch here ["additionalItems"] (some (toString i)) v
  | some _ => items.zipIdx.map fun (v, i) => branch here ["items"] (some (toString i)) v

/-- The tasks of the keywords that apply to arrays. -/
def arrayTasks (items : List Value) : List (Task Target) :=
  (elementBranches here members items).map .descend ++
    [.check ((given members "maxItems" Compile.asCount).any (· < items.length)) ["maxItems"],
      .check ((given members "minItems" Compile.asCount).any (items.length < ·)) ["minItems"],
      .check ((given members "uniqueItems" Compile.asBool).getD false && Value.hasDuplicate items)
        ["uniqueItems"]] ++
    (match members.get? "contains" with
      | none => []
      | some _ =>
        [.some (items.zipIdx.map fun (v, i) => branch here ["contains"] (some (toString i)) v)
          ["contains"]])

/-! ## Objects -/

/-- The entries of `patternProperties` for a name. -/
def matching (name : String) : Members Value :=
  (entries members "patternProperties").filter fun (text, _) =>
    (Pattern.ofText? text).any fun pattern => pattern.foundIn name

/-- The branches of a member of the instance. -/
def memberBranches (name : String) (v : Value) : List (Branch Target) :=
  let own := (entries members "properties").has name
  (if own then [branch here ["properties", name] (some name) v] else []) ++
    ((matching members name).map fun (text, _) =>
      branch here ["patternProperties", text] (some name) v) ++
    (if !own && (matching members name).isEmpty then
      (members.get? "additionalProperties").toList.map fun _ =>
        branch here ["additionalProperties"] (some name) v
    else [])

/-- The tasks of one of `dependencies`. -/
def dependencyTasks (object : Members Value) (name : String) (dependency : Value) :
    List (Task Target) :=
  if object.has name then
    match dependency with
    | .array _ =>
      requireTasks object ["dependencies", name]
        ((Compile.asStrings dependency).toOption.getD [])
    | _ => [.descend (branch here ["dependencies", name] none (.object object))]
  else []

/-- The tasks of the keywords that apply to objects. -/
def objectTasks (object : Members Value) : List (Task Target) :=
  [.check ((given members "maxProperties" Compile.asCount).any (· < object.length))
      ["maxProperties"],
    .check ((given members "minProperties" Compile.asCount).any (object.length < ·))
      ["minProperties"]] ++
    requireTasks object ["required"] ((given members "required" Compile.asStrings).getD []) ++
    (object.flatMap fun (name, v) => (memberBranches here members name v).map .descend) ++
    ((entries members "dependencies").flatMap fun (name, d) =>
      dependencyTasks here object name d) ++
    (match members.get? "propertyNames" with
      | none => []
      | some _ =>
        object.map fun (name, _) =>
          .descend (branch here ["propertyNames"] (some name) (.string name)))

/-! ## All keywords -/

/-- The task of `$ref`. -/
def refTasks (v : Value) : List (Task Target) :=
  match given members "$ref" (Compile.asReference here.base) with
  | none => []
  | some ref => [.follow ref.target (some ref.target) v]

/-- The tasks of the keywords for the kind of value that the instance is. -/
def shapedTasks (v : Value) : List (Task Target) :=
  match v with
  | .null => []
  | .bool _ => []
  | .number n => (numberRules members).tasks n
  | .string s => (stringRules members).tasks s
  | .array items => arrayTasks here members items
  | .object object => objectTasks here members object

/-- The tasks of all keywords but `$ref`. -/
def ownTasks (v : Value) : List (Task Target) :=
  negatedTasks here members v ++ conditionalTasks here members v ++
    [.check ((members.get? "const").any fun c => !c.same v) ["const"],
      .check ((given members "enum" Compile.asArray).any fun values =>
        !values.any fun c => c.same v) ["enum"]] ++
    listTasks here members v ++
    [.check ((given members "type" Compile.asTypes).any fun types =>
      !types.any fun t => t.accepts v) ["type"]] ++
    shapedTasks here members v

/-- The tasks of a schema with these members, in order. -/
def tasks (v : Value) : List (Task Target) := refTasks here members v ++ ownTasks here members v

end JsonSchema.Direct
