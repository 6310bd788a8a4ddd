import JsonSchema.Command.Run
/-!
# The program

Reads the files that the arguments name, and prints the outcome.
-/

namespace JsonSchema.Command

/-- Reads a file, if that is possible. -/
def readFile? (name : String) : IO (Option (String × ByteArray)) := do
  try
    return some (name, ← IO.FS.readBinFile name)
  catch _ =>
    return none

/-- Reads the files that the arguments name. -/
def readFiles (args : List String) : IO Files := do
  let names := match Request.ofArguments? args with
    | some request => request.fileNames
    | none => []
  return (← names.mapM readFile?).filterMap id

end JsonSchema.Command

open JsonSchema.Command in
/-- Runs the program. -/
def main (args : List String) : IO UInt32 := do
  let files ← readFiles args
  match run files args with
  | .ok outcome =>
    IO.print outcome.output
    return UInt32.ofNat outcome.exitCode
  | .error e =>
    IO.eprintln e.message
    return 2
