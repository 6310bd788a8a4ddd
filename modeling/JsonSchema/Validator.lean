import JsonSchema.Config
import JsonSchema.Evaluation.Evaluate
import JsonSchema.Schema.Bundle
/-!
# Validators

A validator is built from documents once, and then any number of instances can be validated with
it. Without a selector the last document is used.
-/

namespace JsonSchema

/-- Compiled documents, and the limits of evaluation. -/
structure Validator where
  /-- The documents. -/
  bundle : Bundle
  /-- The limits. -/
  config : Config

/-- The violations that were found, in the order of evaluation. -/
abbrev Report := List Violation

namespace Report

/-- The instance has no violations. -/
def isValid (report : Report) : Bool := report.isEmpty

/-- The violations in words, a line for each. -/
def text (report : Report) : String :=
  String.intercalate "\n" (report.map Violation.text)

end Report

namespace Validator

/-- Builds a validator. -/
def ofDocuments (documents : List Value) (config : Config) : Except SchemaError Validator := do
  let bundle ← Bundle.ofDocuments documents
  return { bundle, config }

/-- The URIs of the documents, in the order in which they were given. -/
def roots (validator : Validator) : List String :=
  validator.bundle.roots.map fun root => root.base.text

/-- Validates an instance with the schema at an index, which stands at the place. -/
def runAt (validator : Validator) (here : Target) (index : Nat) (v : Value) :
    Except EvalError Report :=
  validator.bundle.registry.evaluate validator.config.maxStackDepth validator.config.maxErrors
    { uri := here.base.text, tokens := here.pointer.tokens } index v

/-- Validates an instance with the last document. -/
def validate (validator : Validator) (v : Value) : Except EvalError Report :=
  match validator.bundle.roots.getLast? with
  | none => .error (.unknownSchema "")
  | some root => validator.runAt { base := root.base, pointer := .root } root.index v

/-- Validates an instance with the schema that a selector names. -/
def validateAt (validator : Validator) (selector : String) (v : Value) : Except EvalError Report :=
  match Target.ofSelector selector with
  | .error _ => .error (.unknownSchema selector)
  | .ok target =>
    match validator.bundle.registry.lookup target.key with
    | none => .error (.unknownSchema selector)
    | some index => validator.runAt target index v

end Validator

end JsonSchema
