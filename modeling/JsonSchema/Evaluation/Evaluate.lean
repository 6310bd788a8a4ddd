import JsonSchema.Evaluation.Violations
import JsonSchema.Schema.Registry
/-!
# Evaluation

An instance is evaluated against a node by walking through the keywords of the node and through
the nodes that they refer to. The order is fixed: `$ref`, `not`, the conditional keywords, `const`,
`enum`, the lists of schemas, `type`, and then the keywords for the kind of value that the instance
is. A violation of one keyword does not keep the others from being evaluated.

Where only the verdict of a schema matters, it is put on trial: its violations are gathered apart,
and one is enough.

Only references can lead to endless evaluation. Each reference that is being followed has a frame,
and the number of frames is limited.

A step down in a document is taken in the current frame. That there is one is only asserted, and
assertions are not checked in every build. So evaluation is told what such a step comes to where
there is no frame.
-/

namespace JsonSchema

/-- Why an evaluation has no answer. -/
inductive EvalError where
  /-- Following a reference would take more frames than allowed. -/
  | stackOverflow (limit : Nat)
  /-- There is no schema for the selector. -/
  | unknownSchema (selector : String)
  /-- A reference was never linked. -/
  | unlinked (key : String)
  /-- There is no node with the index. -/
  | noNode (index : Nat)
deriving DecidableEq, Repr

/-- Why there is no answer, in words. -/
def EvalError.message : EvalError → String
  | stackOverflow limit => s!"schema stack depth limit of {limit} exceeded while following $ref"
  | unknownSchema selector => s!"no schema registered under URI '{selector}'"
  | unlinked key => s!"$ref to '{key}' was never linked"
  | noNode index => s!"no schema has the index {index}"

/-- What the build makes of a step down in a document where there is no frame. -/
class Build where
  /-- What the step comes to. -/
  unframed : EvalStack → String → Except EvalError EvalStack

/-- Assertions are not checked, and the step does nothing. This is the build that is meant where
none is named. -/
instance Build.release : Build where
  unframed s token := .ok (s.pushToken token)

/-- Assertions are checked, and the step fails. `failure` stands for the failed assertion. -/
abbrev Build.debug (failure : EvalError) : Build where
  unframed _ _ := .error failure

/-- A computation that moves through the instance and the schemas. -/
abbrev Eval := ExceptT EvalError (StateM EvalStack)

namespace Eval

/-- The current places. -/
def places : Eval EvalStack := ExceptT.mk fun s => (.ok s, s)

/-- Runs `body` between `enter` and `leave`, whether it has an answer or not. -/
def between {α : Type} (enter : EvalStack → Except EvalError EvalStack)
    (leave : EvalStack → EvalStack) (body : Eval α) : Eval α :=
  ExceptT.mk fun s =>
    match enter s with
    | .error e => (.error e, s)
    | .ok s =>
      let (answer, s) := body.run s
      (answer, leave s)

/-- Runs `body` below a token in the instance, if one is given. -/
def belowInstance {α : Type} (token : Option String) (body : Eval α) : Eval α :=
  match token with
  | none => body
  | some token => between (fun s => .ok (s.pushInstance token)) (·.popInstance) body

variable [Build]

/-- Goes down in the document of the current frame. -/
def stepDown (s : EvalStack) (token : String) : Except EvalError EvalStack :=
  if s.frames.isEmpty then Build.unframed s token else .ok (s.pushToken token)

/-- Runs `body` below some tokens in the current document. -/
def belowTokens {α : Type} (tokens : List String) (body : Eval α) : Eval α :=
  match tokens with
  | [] => body
  | token :: rest => between (stepDown · token) (·.popToken) (belowTokens rest body)

/-- Adds a violation of the keyword that some tokens lead to. -/
def report (tokens : List String) (out : Violations) : Eval Violations :=
  belowTokens tokens do
    let s ← places
    return out.add s.violation

/-- Adds a violation of a keyword if it is violated. -/
def reportIf (violated : Bool) (tokens : List String) (out : Violations) : Eval Violations :=
  if violated then report tokens out else return out

/-! ## Numbers and strings -/

/-- How far from a multiple of the divisor the remainder may be: the number nearest to `0.001`. -/
def multipleTolerance : Double := { negative := false, rank := 0x3F50624DD2F1A9FC }

/-- Whether the remainder of a division is beyond the tolerance. -/
def missesMultiple (x divisor : Double) : Bool :=
  decide (multipleTolerance.units < (Int.tmod x.units divisor.units).natAbs)

/-- Checks a number. -/
def number (rules : NumberRules) (n : Number) (out : Violations) : Eval Violations := do
  let x := n.toDouble
  let out ← reportIf (rules.multipleOf.any fun m => missesMultiple x m) ["multipleOf"] out
  let out ← reportIf (rules.maximum.any fun m => m.units < x.units) ["maximum"] out
  let out ← reportIf (rules.minimum.any fun m => x.units < m.units) ["minimum"] out
  let out ←
    reportIf (rules.exclusiveMaximum.any fun m => m.units ≤ x.units) ["exclusiveMaximum"] out
  reportIf (rules.exclusiveMinimum.any fun m => x.units ≤ m.units) ["exclusiveMinimum"] out

/-- Checks a string. -/
def string (rules : StringRules) (s : String) (out : Violations) : Eval Violations := do
  let out ← reportIf (rules.maxLength.any (· < s.length)) ["maxLength"] out
  let out ← reportIf (rules.minLength.any (s.length < ·)) ["minLength"] out
  reportIf (rules.pattern.any fun p => !p.foundIn s) ["pattern"] out

/-! ## Keywords with schemas

`evaluate` evaluates a value against the node with an index. -/

section

variable (evaluate : Nat → Value → Violations → Eval Violations)

/-- Evaluates a value against a sub-schema. -/
def descend (tokens : List String) (token : Option String) (index : Nat) (v : Value)
    (out : Violations) : Eval Violations :=
  belowTokens tokens (belowInstance token (evaluate index v out))

/-- Evaluates a value against a sub-schema, if there is one. -/
def descendIf (tokens : List String) (token : Option String) (index : Option Nat) (v : Value)
    (out : Violations) : Eval Violations :=
  match index with
  | none => return out
  | some index => descend evaluate tokens token index v out

/-- Whether a value passes a sub-schema. -/
def passes (tokens : List String) (token : Option String) (index : Nat) (v : Value) :
    Eval Bool := do
  let out ← descend evaluate tokens token index v (.none 1)
  return out.isEmpty

/-- Whether a trial on one of the list is passed. They are held in turn up to the first one that is
passed. -/
def somePasses {α : Type} (trial : α → Eval Bool) : List α → Eval Bool
  | [] => return false
  | a :: rest => do
    if ← trial a then return true else somePasses trial rest

/-- Whether a trial on exactly one of the list is passed. They are held in turn up to the second one
that is passed. -/
def onePasses {α : Type} (trial : α → Eval Bool) : List α → Eval Bool
  | [] => return false
  | a :: rest => do
    if ← trial a then return !(← somePasses trial rest) else onePasses trial rest

/-- Follows a reference. -/
def follow (limit : Nat) (ref : Reference) (v : Value) (out : Violations) : Eval Violations := do
  match ref.resolved with
  | none => throw (.unlinked ref.target.key)
  | some index =>
    let s ← places
    if limit ≤ s.depth then throw (.stackOverflow limit)
    else
      let frame : Frame := { uri := ref.target.base.text, tokens := ref.target.pointer.tokens }
      between (fun s => .ok (s.pushFrame frame)) (·.popFrame) (evaluate index v out)

/-- Evaluates `not`. -/
def negated (k : Combinators) (v : Value) (out : Violations) : Eval Violations :=
  match k.negated with
  | none => return out
  | some index => do
    let passed ← passes evaluate ["not"] none index v
    reportIf passed ["not"] out

/-- Evaluates `if`, `then` and `else`. -/
def conditional (k : Combinators) (v : Value) (out : Violations) : Eval Violations :=
  match k.condition with
  | none => return out
  | some index => do
    if ← passes evaluate ["if"] none index v then
      descendIf evaluate ["then"] none k.onPass v out
    else descendIf evaluate ["else"] none k.onFail v out

/-- Evaluates `allOf`, `anyOf` and `oneOf`. -/
def lists (k : Combinators) (v : Value) (out : Violations) : Eval Violations := do
  let out ← (k.allOf.getD []).zipIdx.foldlM (fun out (index, i) =>
    descend evaluate ["allOf", toString i] none index v out) out
  let out ← match k.anyOf with
    | none => pure out
    | some schemas => do
      let passed ← somePasses (fun (index, i) =>
        passes evaluate ["anyOf", toString i] none index v) schemas.zipIdx
      reportIf (!passed) ["anyOf"] out
  match k.oneOf with
  | none => return out
  | some schemas => do
    let passed ← onePasses (fun (index, i) =>
      passes evaluate ["oneOf", toString i] none index v) schemas.zipIdx
    reportIf (!passed) ["oneOf"] out

/-- Evaluates the elements of an array against `items` and `additionalItems`. -/
def elements (rules : ArrayRules) (items : List Value) (out : Violations) : Eval Violations :=
  match rules.items with
  | none => return out
  | some (.all schema) =>
    items.zipIdx.foldlM (fun out (v, i) =>
      descend evaluate ["items"] (some (toString i)) schema v out) out
  | some (.positional schemas) => do
    let out ← (schemas.zip items).zipIdx.foldlM (fun out ((schema, v), i) =>
      descend evaluate ["items", toString i] (some (toString i)) schema v out) out
    (items.zipIdx.drop schemas.length).foldlM (fun out (v, i) =>
      descendIf evaluate ["additionalItems"] (some (toString i)) rules.additionalItems v out) out

/-- Checks an array. -/
def array (rules : ArrayRules) (items : List Value) (out : Violations) : Eval Violations := do
  let out ← elements evaluate rules items out
  let out ← reportIf (rules.maxItems.any (· < items.length)) ["maxItems"] out
  let out ← reportIf (rules.minItems.any (items.length < ·)) ["minItems"] out
  let out ← reportIf (rules.uniqueItems && Value.hasDuplicate items) ["uniqueItems"] out
  match rules.contains with
  | none => return out
  | some schema => do
    let found ← somePasses (fun (v, i) =>
      passes evaluate ["contains"] (some (toString i)) schema v) items.zipIdx
    reportIf (!found) ["contains"] out

/-- Evaluates a member of an object against the schemas for its name. -/
def member (rules : ObjectRules) (name : String) (v : Value) (out : Violations) :
    Eval Violations := do
  let own := rules.properties.bind fun properties => properties.get? name
  let matching := (rules.patternProperties.getD []).filter fun (pattern, _) => pattern.foundIn name
  let out ← descendIf evaluate ["properties", name] (some name) own v out
  let out ← matching.foldlM (fun out (pattern, schema) =>
    descend evaluate ["patternProperties", pattern.text] (some name) schema v out) out
  if own.isNone && matching.isEmpty then
    descendIf evaluate ["additionalProperties"] (some name) rules.additionalProperties v out
  else return out

/-- Reports the names of a list that an object has not. -/
def requireNames (members : Members Value) (tokens : List String) (names : List String)
    (out : Violations) : Eval Violations :=
  names.zipIdx.foldlM (fun out (name, i) =>
    reportIf (!members.has name) (tokens ++ [toString i]) out) out

/-- Evaluates a dependency of an object. -/
def dependency (members : Members Value) (name : String) (d : Dependency) (out : Violations) :
    Eval Violations :=
  if members.has name then
    match d with
    | .schema schema =>
      descend evaluate ["dependencies", name] none schema (.object members) out
    | .required names => requireNames members ["dependencies", name] names out
  else return out

/-- Checks an object. -/
def object (rules : ObjectRules) (members : Members Value) (out : Violations) :
    Eval Violations := do
  let out ← reportIf (rules.maxProperties.any (· < members.length)) ["maxProperties"] out
  let out ← reportIf (rules.minProperties.any (members.length < ·)) ["minProperties"] out
  let out ← requireNames members ["required"] (rules.required.getD []) out
  let out ← members.foldlM (fun out (name, v) => member evaluate rules name v out) out
  let out ← (rules.dependencies.getD []).foldlM (fun out (name, d) =>
    dependency evaluate members name d out) out
  match rules.propertyNames with
  | none => return out
  | some schema =>
    members.foldlM (fun out (name, _) =>
      descend evaluate ["propertyNames"] (some name) schema (.string name) out) out

/-- Checks the keywords for the kind of value that the instance is. -/
def shaped (k : Keywords) (v : Value) (out : Violations) : Eval Violations :=
  match v with
  | .null => return out
  | .bool _ => return out
  | .number n => number k.numbers n out
  | .string s => string k.strings s out
  | .array items => array evaluate k.arrays items out
  | .object members => object evaluate k.objects members out

/-- Evaluates a value against all keywords. -/
def keywords (limit : Nat) (k : Keywords) (v : Value) (out : Violations) : Eval Violations := do
  let out ← match k.ref with
    | none => pure out
    | some ref => follow evaluate limit ref v out
  let out ← negated evaluate k.combinators v out
  let out ← conditional evaluate k.combinators v out
  let out ← reportIf (k.const.any fun c => !c.same v) ["const"] out
  let out ← reportIf (k.enum.any fun values => !values.any fun c => c.same v) ["enum"] out
  let out ← lists evaluate k.combinators v out
  let out ← reportIf (k.types.any fun types => !types.any fun t => t.accepts v) ["type"] out
  shaped evaluate k v out

/-- Evaluates a value against the node with an index. -/
def node (registry : Registry) (limit : Nat) (index : Nat) (v : Value) (out : Violations) :
    Eval Violations :=
  if out.isFull then return out
  else
    match registry.get? index with
    | none => throw (.noNode index)
    | some node =>
      match node.body with
      | .bool true => return out
      | .bool false => report [] out
      | .keywords k => keywords evaluate limit k v out

end

/-- Evaluates a value against the node with an index. The first argument bounds how deep the
evaluation goes from node to node. -/
def within (registry : Registry) (limit : Nat) : Nat → Nat → Value → Violations → Eval Violations
  | 0 => node (fun index _ _ => throw (.noNode index)) registry limit
  | steps + 1 => node (within registry limit steps) registry limit

/-- How deep an evaluation can go. Between two references the indices of the nodes decrease, and
there is a frame for each reference. -/
def steps (registry : Registry) (limit : Nat) : Nat :=
  (limit + 1) * (registry.size + 1)

end Eval

/-- Evaluates a value against the node with an index, which stands at the place that the frame
tells. At most `cap` violations are gathered, unless that is zero. -/
def Registry.evaluate (registry : Registry) (limit cap : Nat) (frame : Frame) (index : Nat)
    (v : Value) : Except EvalError (List Violation) :=
  let evaluation := Eval.within registry limit (Eval.steps registry limit) index v (.none cap)
  match evaluation.run (EvalStack.empty.pushFrame frame) with
  | (.ok out, _) => .ok out.found
  | (.error e, _) => .error e

end JsonSchema
