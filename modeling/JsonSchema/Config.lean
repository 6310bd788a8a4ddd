import JsonSchema.Json.Value
/-!
# Limits of evaluation
-/

namespace JsonSchema

/-- The limits of an evaluation. -/
structure Config where
  /-- How many frames there may be: one for the schema and one for each reference followed. -/
  maxStackDepth : Nat := 128
  /-- How many violations are gathered. Zero stands for no limit. -/
  maxErrors : Nat := 0
deriving DecidableEq, Repr

namespace Config

/-- A limit is a whole number of 64 bits without a sign. -/
def limit? : Value → Option Nat
  | .number (.integer n _) => if 0 ≤ n then some n.toNat else none
  | _ => none

/-- Sets the limit with a given name. -/
def set? (config : Config) (name : String) (v : Value) : Option Config := do
  let n ← limit? v
  if name = "max_stack_depth" then some { config with maxStackDepth := n }
  else if name = "max_errors" then some { config with maxErrors := n }
  else none

/-- The limits that a document gives: an object with limits by name, or an array of them in order.
What it does not give stays as it is. -/
def ofValue? (v : Value) : Option Config :=
  match v with
  | .object members => members.foldlM (fun config (name, v) => config.set? name v) {}
  | .array [] => some {}
  | .array [depth] => do
    let maxStackDepth ← limit? depth
    return { maxStackDepth }
  | .array [depth, errors] => do
    let maxStackDepth ← limit? depth
    let maxErrors ← limit? errors
    return { maxStackDepth, maxErrors }
  | _ => none

end Config

end JsonSchema
