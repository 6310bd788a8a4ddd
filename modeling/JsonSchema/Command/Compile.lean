import JsonSchema.Command.Validate
/-!
# Compiling files

Compiles the schemas in files, to see whether they are well formed and all references lead
somewhere.
-/

namespace JsonSchema.Command

/-- A line about a document: its file and its URI. -/
def rootLine (file uri : String) : String :=
  let shown := if uri.isEmpty then "(anonymous)" else uri
  s!"{file}: {shown}"

/-- A line for each document, and one with the number of schemas. -/
def compileSummary (files : Files) (schemas : List String) : Except Failure String := do
  let validator ← Validation.validator files schemas {}
  let size := validator.bundle.registry.size
  let count := schemas.length
  return lines (
    List.zipWith rootLine schemas validator.roots ++
    [s!"compiled {size} schema node(s) from {count} document(s)"])

end JsonSchema.Command
