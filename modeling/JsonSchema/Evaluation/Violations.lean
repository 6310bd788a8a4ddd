import JsonSchema.Evaluation.Stack
/-!
# Gathering violations

Violations are gathered in the order of evaluation. There may be a cap on their number; once it is
reached nothing is added any more.
-/

namespace JsonSchema

/-- The violations gathered so far. -/
structure Violations where
  /-- The violations, in the order of evaluation. -/
  found : List Violation
  /-- How many are gathered at most. Zero stands for no limit. -/
  cap : Nat
deriving DecidableEq, Repr

namespace Violations

/-- No violations yet. -/
def none (cap : Nat) : Violations := { found := [], cap }

/-- The cap is reached. -/
def isFull (out : Violations) : Bool :=
  out.cap != 0 && out.cap ≤ out.found.length

/-- Nothing was found. -/
def isEmpty (out : Violations) : Bool := out.found.isEmpty

/-- Adds a violation, unless the cap is reached. -/
def add (out : Violations) (v : Violation) : Violations :=
  if out.isFull then out else { out with found := out.found ++ [v] }

end Violations

end JsonSchema
