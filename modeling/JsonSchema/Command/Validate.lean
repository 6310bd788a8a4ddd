import JsonSchema.Command.Files
import JsonSchema.Json.Quoted
import JsonSchema.Validator
/-!
# Validating files

Validates the instances in files with the schemas in other files. Each instance is reported on its
own; if one of them cannot be read or evaluated there is no report at all.
-/

namespace JsonSchema.Command

/-- How reports are written. -/
inductive Format where
  /-- A line for each instance, and one for each violation. -/
  | text
  /-- A JSON object for each instance, on one line. -/
  | json
deriving DecidableEq, Repr

/-- What to validate, and how. -/
structure Validation where
  /-- The files with schemas. The last one is used unless there is a selector. -/
  schemas : List String := []
  /-- The selector of the schema to use. -/
  selector : Option String := none
  /-- How reports are written. -/
  format : Format := .text
  /-- The file with limits. -/
  config : Option String := none
  /-- A limit that takes the place of the one in the file. -/
  maxStackDepth : Option Nat := none
  /-- A limit that takes the place of the one in the file. -/
  maxErrors : Option Nat := none
  /-- The files with instances. -/
  instances : List String := []
deriving DecidableEq, Repr

/-- The report on the instance in a file. -/
structure InstanceReport where
  /-- The file. -/
  file : String
  /-- The report. -/
  report : Report

namespace Validation

/-- The limits in a file, with those in their places that are given. -/
def limits (files : Files) (file : Option String) (maxStackDepth maxErrors : Option Nat) :
    Except Failure Config := do
  let config ← files.config file
  return {
    maxStackDepth := maxStackDepth.getD config.maxStackDepth
    maxErrors := maxErrors.getD config.maxErrors }

/-- Builds a validator of the schemas in files. -/
def validator (files : Files) (schemas : List String) (config : Config) :
    Except Failure Validator := do
  let documents ← schemas.mapM files.document
  match Validator.ofDocuments documents config with
  | .ok validator => .ok validator
  | .error cause => .error (.schemas cause)

/-- Validates the instance in a file. -/
def reportOn (files : Files) (validator : Validator) (selector : Option String) (file : String) :
    Except Failure InstanceReport := do
  let v ← files.document file
  let report := match selector with
    | none => validator.validate v
    | some selector => validator.validateAt selector v
  match report with
  | .ok report => .ok { file, report }
  | .error cause => .error (.evaluation file cause)

/-- Validates all instances. -/
def reports (files : Files) (task : Validation) : Except Failure (List InstanceReport) := do
  let config ← limits files task.config task.maxStackDepth task.maxErrors
  let validator ← validator files task.schemas config
  task.instances.mapM (reportOn files validator task.selector)

end Validation

/-! ## Writing reports -/

/-- The text with line ends behind its lines. -/
def lines (texts : List String) : String :=
  String.join (texts.map (· ++ "\n"))

/-- The JSON object with the given members, whose values are given as text. -/
def objectText (members : List (String × String)) : String :=
  let entries := members.map fun (name, text) => Json.quote name ++ ":" ++ text
  "\x7b" ++ String.intercalate "," entries ++ "\x7d"

/-- A violation as a JSON object. -/
def violationObject (v : Violation) : String :=
  objectText [
    ("instancePath", Json.quote v.instancePath.text),
    ("schemaPath", Json.quote v.schemaPath.text),
    ("schemaURI", Json.quote v.schemaUri)]

namespace InstanceReport

/-- The instance has no violations. -/
def isValid (r : InstanceReport) : Bool := r.report.isValid

/-- The report in lines of text. -/
def plainText (r : InstanceReport) : String :=
  let verdict := if r.isValid then "valid" else "invalid"
  lines (s!"{r.file}: {verdict}" :: r.report.map fun v => "  " ++ v.text)

/-- The report as a JSON object. -/
def jsonText (r : InstanceReport) : String :=
  lines [objectText [
    ("instance", Json.quote r.file),
    ("valid", toString r.isValid),
    ("errors", "[" ++ String.intercalate "," (r.report.map violationObject) ++ "]")]]

/-- The report in a format. -/
def text (format : Format) (r : InstanceReport) : String :=
  match format with
  | .text => r.plainText
  | .json => r.jsonText

end InstanceReport

/-- The reports in a format. -/
def reportsText (format : Format) (reports : List InstanceReport) : String :=
  String.join (reports.map (InstanceReport.text format))

end JsonSchema.Command
