import JsonSchema.Command.Arguments
import JsonSchema.Command.Compile
/-!
# Running commands

A run prints a text and ends with an exit code. The code is `0` if all is well, `1` if some instance
is invalid, and `2` if there is no result; then nothing is printed.
-/

namespace JsonSchema.Command

/-- The name and version of the program. -/
def versionText : String := "jsv 0.1.0"

/-- The result of a run. -/
structure Outcome where
  /-- The exit code. -/
  exitCode : Nat
  /-- The text that is printed. -/
  output : String
deriving DecidableEq, Repr

/-- Why a run has no result. -/
inductive RunError where
  /-- The arguments are not understood. -/
  | arguments
  /-- The command fails. -/
  | command (cause : Failure)

/-- What went wrong. -/
def RunError.message : RunError → String
  | arguments => "usage: jsv (validate | compile) --schema FILE ... [INSTANCE ...]"
  | command cause => cause.message

namespace Request

/-- The files that are read. -/
def fileNames : Request → List String
  | validate task => task.config.toList ++ task.schemas ++ task.instances
  | compile schemas => schemas
  | version => []

/-- Carries out a request. -/
def run (files : Files) : Request → Except Failure Outcome
  | validate task => do
    let reports ← task.reports files
    return {
      exitCode := if reports.all InstanceReport.isValid then 0 else 1
      output := reportsText task.format reports }
  | compile schemas => do
    return { exitCode := 0, output := ← compileSummary files schemas }
  | version => return { exitCode := 0, output := lines [versionText] }

end Request

/-- Runs the program with some arguments. -/
def run (files : Files) (args : List String) : Except RunError Outcome :=
  match Request.ofArguments? args with
  | none => .error .arguments
  | some request =>
    match request.run files with
    | .ok outcome => .ok outcome
    | .error cause => .error (.command cause)

/-- The outcome of a run, be there a result or not. -/
def outcome (files : Files) (args : List String) : Outcome :=
  match run files args with
  | .ok outcome => outcome
  | .error _ => { exitCode := 2, output := "" }

end JsonSchema.Command
