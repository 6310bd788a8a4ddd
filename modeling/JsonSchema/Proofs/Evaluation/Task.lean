import JsonSchema.Proofs.Evaluation.Meaning

/-!
# What evaluating a node consists of

About thirty keywords make up an evaluation, but there are only seven things that any of them
does: check a condition, evaluate a sub-schema for real, follow a reference, choose between two
branches, or hold one of three kinds of trial. A `Task` is one of these. `Keywords.tasks` lists the
tasks of a node in the order in which they are done.

`Eval.keywords` performs exactly these tasks, and leaves the places of the evaluation as it found
them. So a property of evaluation is proved for each kind of task once, and not for each keyword.

The schemas that tasks refer to are of any type `ι`: indices here, places in documents elsewhere.
-/

namespace JsonSchema

/-- A sub-schema and the value put to it, with the ways to both from the current places. -/
structure Branch (ι : Type) where
  /-- The way to the sub-schema. -/
  tokens : List String
  /-- The way to the value, unless it is the same value. -/
  token : Option String
  /-- The sub-schema. -/
  schema : ι
  /-- The value. -/
  value : Value

/-- One of the things that evaluating a node consists of. -/
inductive Task (ι : Type) where
  /-- A condition that needs no other schema. -/
  | check (violated : Bool) (tokens : List String)
  /-- A sub-schema evaluated for real. -/
  | descend (branch : Branch ι)
  /-- A reference. It may not be linked. -/
  | follow (target : Target) (schema : Option ι) (v : Value)
  /-- A trial that decides which branch is evaluated, if any. -/
  | choose (condition : Branch ι) (onPass onFail : Option (Branch ι))
  /-- A trial that must not be passed. -/
  | refute (branch : Branch ι) (tokens : List String)
  /-- Trials of which one must be passed. -/
  | some (branches : List (Branch ι)) (tokens : List String)
  /-- Trials of which exactly one must be passed. -/
  | one (branches : List (Branch ι)) (tokens : List String)

variable {ι : Type}

/-- The sub-schemas that a task may evaluate. Where a reference leads is not among them. -/
def Task.branches : Task ι → List (Branch ι)
  | check _ _ => []
  | descend branch => [branch]
  | follow _ _ _ => []
  | choose condition onPass onFail => condition :: (onPass.toList ++ onFail.toList)
  | refute branch _ => [branch]
  | some branches _ => branches
  | one branches _ => branches

/-! ## Performing tasks -/

/-- What performing tasks at some place takes. -/
structure Site (ι : Type) where
  /-- A violation of the keyword that some tokens lead to. -/
  violation : List String → Violation
  /-- Evaluates a sub-schema. -/
  evaluate : Branch ι → Violations → Except EvalError Violations
  /-- Follows a reference. -/
  follow : Target → Option ι → Value → Violations → Except EvalError Violations

namespace Site

/-- Adds a violation if there is one. -/
def reportIf (site : Site ι) (violated : Bool) (tokens : List String) (out : Violations) :
    Violations :=
  if violated then out.add (site.violation tokens) else out

/-- Whether a trial is passed. -/
def passes (site : Site ι) (b : Branch ι) : Except EvalError Bool := do
  let out ← site.evaluate b (.none 1)
  return out.isEmpty

/-- Whether one of the trials is passed. -/
def somePasses (site : Site ι) : List (Branch ι) → Except EvalError Bool
  | [] => .ok false
  | b :: rest => do
    if ← site.passes b then return true else site.somePasses rest

/-- Whether exactly one of the trials is passed. -/
def onePasses (site : Site ι) : List (Branch ι) → Except EvalError Bool
  | [] => .ok false
  | b :: rest => do
    if ← site.passes b then return !(← site.somePasses rest) else site.onePasses rest

/-- Evaluates a branch, if there is one. -/
def descendIf (site : Site ι) (branch : Option (Branch ι)) (out : Violations) :
    Except EvalError Violations :=
  match branch with
  | none => .ok out
  | some b => site.evaluate b out

/-- Performs a task. -/
def perform (site : Site ι) (task : Task ι) (out : Violations) : Except EvalError Violations :=
  match task with
  | .check violated tokens => .ok (site.reportIf violated tokens out)
  | .descend b => site.evaluate b out
  | .follow target schema v => site.follow target schema v out
  | .choose condition onPass onFail => do
    if ← site.passes condition then site.descendIf onPass out else site.descendIf onFail out
  | .refute b tokens => do
    let passed ← site.passes b
    return site.reportIf passed tokens out
  | .some bs tokens => do
    let passed ← site.somePasses bs
    return site.reportIf (!passed) tokens out
  | .one bs tokens => do
    let passed ← site.onePasses bs
    return site.reportIf (!passed) tokens out

/-- Performs tasks in turn. -/
def performAll (site : Site ι) (tasks : List (Task ι)) (out : Violations) :
    Except EvalError Violations :=
  tasks.foldlM (fun out task => site.perform task out) out

theorem performAll_append (site : Site ι) (l l' : List (Task ι)) (out : Violations) :
    site.performAll (l ++ l') out = site.performAll l out >>= site.performAll l' :=
  List.foldlM_append

theorem performAll_cons (site : Site ι) (t : Task ι) (l : List (Task ι))
    (out : Violations) :
    site.performAll (t :: l) out = site.perform t out >>= site.performAll l :=
  List.foldlM_cons

theorem performAll_singleton (site : Site ι) (t : Task ι) (out : Violations) :
    site.performAll [t] out = site.perform t out := by
  rw [performAll_cons]
  exact bind_pure (site.perform t out)

theorem performAll_toList {γ : Type} (site : Site ι) (o : Option γ) (f : γ → Branch ι)
    (out : Violations) :
    site.performAll (o.toList.map fun c => .descend (f c)) out = site.descendIf (o.map f) out := by
  cases o with
  | none => rfl
  | some c => exact performAll_singleton site _ out

end Site

/-! ## The tasks of the keywords -/

/-- The tasks of the keywords that apply to numbers. -/
def NumberRules.tasks (rules : NumberRules) (n : Number) : List (Task ι) :=
  let x := n.toDouble
  [.check (rules.multipleOf.any fun m => Eval.missesMultiple x m) ["multipleOf"],
    .check (rules.maximum.any fun m => m.units < x.units) ["maximum"],
    .check (rules.minimum.any fun m => x.units < m.units) ["minimum"],
    .check (rules.exclusiveMaximum.any fun m => m.units ≤ x.units) ["exclusiveMaximum"],
    .check (rules.exclusiveMinimum.any fun m => x.units ≤ m.units) ["exclusiveMinimum"]]

/-- The tasks of the keywords that apply to strings. -/
def StringRules.tasks (rules : StringRules) (s : String) : List (Task ι) :=
  [.check (rules.maxLength.any (· < s.length)) ["maxLength"],
    .check (rules.minLength.any (s.length < ·)) ["minLength"],
    .check (rules.pattern.any fun p => !p.foundIn s) ["pattern"]]

namespace Combinators

/-- The task of `not`. -/
def negatedTasks (k : Combinators) (v : Value) : List (Task Nat) :=
  match k.negated with
  | none => []
  | some i => [.refute ⟨["not"], none, i, v⟩ ["not"]]

/-- The task of `if`, `then` and `else`. -/
def conditionalTasks (k : Combinators) (v : Value) : List (Task Nat) :=
  match k.condition with
  | none => []
  | some i =>
    [.choose ⟨["if"], none, i, v⟩ (k.onPass.map fun j => ⟨["then"], none, j, v⟩)
      (k.onFail.map fun j => ⟨["else"], none, j, v⟩)]

/-- The branches of a keyword that takes a list of schemas. -/
def listBranches (keyword : String) (schemas : List Nat) (v : Value) : List (Branch Nat) :=
  schemas.zipIdx.map fun (j, i) => ⟨[keyword, toString i], none, j, v⟩

/-- The tasks of `allOf`, `anyOf` and `oneOf`. -/
def listTasks (k : Combinators) (v : Value) : List (Task Nat) :=
  (listBranches "allOf" (k.allOf.getD []) v).map .descend ++
    (match k.anyOf with
      | none => []
      | some schemas => [.some (listBranches "anyOf" schemas v) ["anyOf"]]) ++
    (match k.oneOf with
      | none => []
      | some schemas => [.one (listBranches "oneOf" schemas v) ["oneOf"]])

end Combinators

namespace ArrayRules

/-- The branches of `items` and `additionalItems`. -/
def elementBranches (rules : ArrayRules) (items : List Value) : List (Branch Nat) :=
  match rules.items with
  | none => []
  | some (.all j) => items.zipIdx.map fun (v, i) => ⟨["items"], some (toString i), j, v⟩
  | some (.positional schemas) =>
    ((schemas.zip items).zipIdx.map fun ((j, v), i) =>
      ⟨["items", toString i], some (toString i), j, v⟩) ++
    (items.zipIdx.drop schemas.length).flatMap fun (v, i) =>
      rules.additionalItems.toList.map fun j =>
        ⟨["additionalItems"], some (toString i), j, v⟩

/-- The tasks of the keywords that apply to arrays. -/
def tasks (rules : ArrayRules) (items : List Value) : List (Task Nat) :=
  (rules.elementBranches items).map .descend ++
    [.check (rules.maxItems.any (· < items.length)) ["maxItems"],
      .check (rules.minItems.any (items.length < ·)) ["minItems"],
      .check (rules.uniqueItems && Value.hasDuplicate items) ["uniqueItems"]] ++
    (match rules.contains with
      | none => []
      | some j =>
        [.some (items.zipIdx.map fun (v, i) => ⟨["contains"], some (toString i), j, v⟩)
          ["contains"]])

end ArrayRules

/-- The checks that an object has all names of a list. -/
def requireTasks (members : Members Value) (tokens : List String) (names : List String) :
    List (Task ι) :=
  names.zipIdx.map fun (name, i) => .check (!members.has name) (tokens ++ [toString i])

namespace ObjectRules

/-- The branches of a member: those of `properties` and `patternProperties`, and that of
`additionalProperties` if there are none. -/
def memberBranches (rules : ObjectRules) (name : String) (v : Value) : List (Branch Nat) :=
  ((rules.own? name).toList.map fun j => ⟨["properties", name], some name, j, v⟩) ++
    ((rules.matching name).map fun (pattern, j) =>
      ⟨["patternProperties", pattern.text], some name, j, v⟩) ++
    (if rules.isAdditional name then
      rules.additionalProperties.toList.map fun j =>
        ⟨["additionalProperties"], some name, j, v⟩
    else [])

/-- The tasks of a dependency. -/
def dependencyTasks (members : Members Value) (name : String) (d : Dependency) :
    List (Task Nat) :=
  if members.has name then
    match d with
    | .schema j => [.descend ⟨["dependencies", name], none, j, .object members⟩]
    | .required names => requireTasks members ["dependencies", name] names
  else []

/-- The tasks of the keywords that apply to objects. -/
def tasks (rules : ObjectRules) (members : Members Value) : List (Task Nat) :=
  [.check (rules.maxProperties.any (· < members.length)) ["maxProperties"],
    .check (rules.minProperties.any (members.length < ·)) ["minProperties"]] ++
    requireTasks members ["required"] (rules.required.getD []) ++
    (members.flatMap fun (name, v) => (rules.memberBranches name v).map .descend) ++
    ((rules.dependencies.getD []).flatMap fun (name, d) => dependencyTasks members name d) ++
    (match rules.propertyNames with
      | none => []
      | some j =>
        members.map fun (name, _) => .descend ⟨["propertyNames"], some name, j, .string name⟩)

end ObjectRules

namespace Keywords

/-- The task of `$ref`. -/
def refTasks (k : Keywords) (v : Value) : List (Task Nat) :=
  match k.ref with
  | none => []
  | some ref => [.follow ref.target ref.resolved v]

/-- The tasks of the keywords for the kind of value that the instance is. -/
def shapedTasks (k : Keywords) (v : Value) : List (Task Nat) :=
  match v with
  | .null => []
  | .bool _ => []
  | .number n => k.numbers.tasks n
  | .string s => k.strings.tasks s
  | .array items => k.arrays.tasks items
  | .object members => k.objects.tasks members

/-- The tasks of all keywords but `$ref`. -/
def ownTasks (k : Keywords) (v : Value) : List (Task Nat) :=
  k.combinators.negatedTasks v ++ k.combinators.conditionalTasks v ++
    [.check (k.const.any fun c => !c.same v) ["const"],
      .check (k.enum.any fun values => !values.any fun c => c.same v) ["enum"]] ++
    k.combinators.listTasks v ++
    [.check (k.types.any fun types => !types.any fun t => t.accepts v) ["type"]] ++
    k.shapedTasks v

/-- The tasks of a node, in order. -/
def tasks (k : Keywords) (v : Value) : List (Task Nat) := k.refTasks v ++ k.ownTasks v

end Keywords

end JsonSchema
