import JsonSchema.Proofs.Direct.Documents
import JsonSchema.Proofs.Direct.Tasks
import JsonSchema.Validator

/-!
# The direct interpreter

An instance can be validated without compiling anything. The value at a place is looked up in the
documents, its keywords are read from it, sub-schemas are evaluated at the places below it, and a
reference is followed to the place that its text names. There are no nodes and no indices, and
nothing is linked beforehand.

A spot is a place, the way that leads to the value in the instance, and the number of frames. The
evaluation at a spot depends on nothing else. It ends because a sub-schema is lower than the schema
around it, and there is a limit on frames.
-/

namespace JsonSchema.Direct

/-- Where an evaluation is. -/
structure Spot where
  /-- The place of the schema. -/
  schema : Target
  /-- The way to the value in the instance. -/
  path : List String
  /-- The number of frames. -/
  depth : Nat

/-- A schema evaluated at a spot: the value, and what was found before. -/
abbrev Answers := Spot → Value → Violations → Except EvalError Violations

/-- A violation of the keyword that some tokens lead to. -/
def Spot.violation (spot : Spot) (tokens : List String) : Violation where
  instancePath := ⟨spot.path⟩
  schemaPath := (spot.schema.below tokens).pointer
  schemaUri := spot.schema.base.text

/-- The spot of a branch. -/
def Spot.branch (spot : Spot) (b : Branch Target) : Spot :=
  { spot with schema := b.schema, path := spot.path ++ b.token.toList }

/-- The spot that a reference leads to. -/
def Spot.follow (spot : Spot) (target : Target) : Spot :=
  { spot with schema := target, depth := spot.depth + 1 }

/-- What performing the tasks of a schema at a spot takes, when `answers` evaluates schemas. -/
def site (limit : Nat) (answers : Answers) (spot : Spot) : Site Target where
  violation := spot.violation
  evaluate b out := answers (spot.branch b) b.value out
  follow target _ v out :=
    if limit ≤ spot.depth then .error (.stackOverflow limit)
    else answers (spot.follow target) v out

/-- Evaluates a value against the schema at a spot. -/
def schemaAnswer (documents : List Value) (limit : Nat) (answers : Answers) : Answers :=
  fun spot v out =>
    if out.isFull then .ok out
    else
      match valueAt documents spot.schema with
      | some (.bool true) => .ok out
      | some (.bool false) => .ok (out.add (spot.violation []))
      | some (.object members) =>
        (site limit answers spot).performAll (tasks spot.schema members v) out
      | _ => .error (.unlinked spot.schema.key)

/-- Evaluates a value against the schema at a spot. The third argument bounds how deep the
evaluation goes from schema to schema. -/
def within (documents : List Value) (limit : Nat) : Nat → Answers
  | 0 => schemaAnswer documents limit fun spot _ _ => .error (.unlinked spot.schema.key)
  | steps + 1 => schemaAnswer documents limit (within documents limit steps)

/-- The height of the highest document. -/
def tallest (documents : List Value) : Nat := (documents.map Value.height).foldr max 0

/-- How deep an evaluation can go. Between two references the heights of the schemas decrease, and
there is a frame for each reference. -/
def steps (documents : List Value) (limit : Nat) : Nat := (limit + 1) * (tallest documents + 1)

/-- Evaluates an instance against the schema at a place. -/
def evaluate (documents : List Value) (limit cap : Nat) (place : Target) (v : Value) :
    Except EvalError Report :=
  (within documents limit (steps documents limit) { schema := place, path := [], depth := 1 } v
    (.none cap)).map Violations.found

/-- Validates an instance with the last document. -/
def validate (documents : List Value) (config : Config) (v : Value) : Except EvalError Report :=
  match documents.getLast?.map (Compile.documentBase .anonymous) with
  | some (.ok base) =>
    evaluate documents config.maxStackDepth config.maxErrors { base, pointer := .root } v
  | _ => .error (.unknownSchema "")

/-- Validates an instance with the schema that a selector names. -/
def validateAt (documents : List Value) (config : Config) (selector : String) (v : Value) :
    Except EvalError Report :=
  match Target.ofSelector selector with
  | .error _ => .error (.unknownSchema selector)
  | .ok target => evaluate documents config.maxStackDepth config.maxErrors target v

end JsonSchema.Direct
