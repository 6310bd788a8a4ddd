import JsonSchema.Config
import JsonSchema.Evaluation.Evaluate
import JsonSchema.Json.Reader
import JsonSchema.Schema.Error
import JsonSchema.Yaml.Reader
import JsonSchema.Yaml.ToJson
/-!
# Documents in files

Schemas, instances and limits are read from files. A file whose name ends in `.yaml` or `.yml` holds
YAML, and any other file holds JSON.
-/

namespace JsonSchema.Command

/-- The files that can be read, with their contents. -/
abbrev Files := Members ByteArray

/-- Why a command has no result. -/
inductive Failure where
  /-- A file cannot be read, or is not encoded in UTF-8. -/
  | unreadable (file : String)
  /-- A file holds no JSON value. -/
  | invalidJson (file : String)
  /-- A file holds no YAML value. -/
  | invalidYaml (file : String)
  /-- A YAML value has no counterpart in JSON. -/
  | conversion (file : String) (cause : Yaml.ConversionError)
  /-- A document does not give limits. -/
  | invalidConfig (file : String)
  /-- No validator can be built. -/
  | schemas (cause : SchemaError)
  /-- An instance cannot be evaluated. -/
  | evaluation (file : String) (cause : EvalError)

/-- What went wrong. -/
def Failure.message : Failure → String
  | unreadable file => s!"cannot read {file}"
  | invalidJson file => s!"invalid JSON in {file}"
  | invalidYaml file => s!"invalid YAML in {file}"
  | conversion file cause => s!"cannot convert YAML in {file} to JSON: {cause.message}"
  | invalidConfig file => s!"invalid configuration in {file}"
  | schemas cause => s!"failed to compile schemas: {cause.message}"
  | evaluation file cause => s!"failed to validate {file}: {cause.message}"

/-- The last name of a path, if it names something in a directory. -/
def fileName? (path : String) : Option (List Char) :=
  let names := (Pointer.pieces path.toList).filter fun name => name != [] && name != ['.']
  names.getLast?.filter (· != ['.', '.'])

/-- What stands behind the last dot of a name. A dot at the start of a name is no such dot. -/
def extension? (path : String) : Option String := do
  let name ← fileName? path
  let reversed := name.reverse.takeWhile (· != '.')
  if name.length < reversed.length + 2 then none
  else some (String.ofList reversed.reverse)

namespace Files

/-- The text of a file. -/
def text (files : Files) (file : String) : Except Failure String :=
  match files.get? file >>= String.fromUTF8? with
  | some text => .ok text
  | none => .error (.unreadable file)

/-- The document that a YAML text holds. -/
def yamlDocument (file text : String) : Except Failure Value :=
  match Yaml.YamlValue.ofText? text with
  | none => .error (.invalidYaml file)
  | some v =>
    match v.toJson with
    | .ok document => .ok document
    | .error cause => .error (.conversion file cause)

/-- The document in a file. -/
def document (files : Files) (file : String) : Except Failure Value := do
  let text ← files.text file
  if extension? file = some "yaml" ∨ extension? file = some "yml" then yamlDocument file text
  else
    match Value.ofText? text with
    | some document => .ok document
    | none => .error (.invalidJson file)

/-- The limits in a file, or else the usual ones. -/
def config (files : Files) (file : Option String) : Except Failure Config :=
  match file with
  | none => .ok {}
  | some file => do
    match Config.ofValue? (← files.document file) with
    | some config => .ok config
    | none => .error (.invalidConfig file)

end Files

end JsonSchema.Command
