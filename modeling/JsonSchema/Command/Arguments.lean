import JsonSchema.Command.Validate
/-!
# Arguments

The arguments name a command, its options and the files it works on. An option is written as `--name
value` or `--name=value`, and some have a short form `-n value`, `-n=value` or `-nvalue`. Short
forms without value can be joined. Behind `--` everything is the name of a file.
-/

namespace JsonSchema.Command

/-- What the arguments ask for. -/
inductive Request where
  /-- Validate instances. -/
  | validate (task : Validation)
  /-- Compile schemas. -/
  | compile (schemas : List String)
  /-- Tell the version of the program. -/
  | version
deriving DecidableEq, Repr

/-! ## Options -/

/-- An option with a value, the option that asks for more output, or the name of a file. -/
inductive Argument where
  /-- An option with its value. -/
  | option (name value : String)
  /-- More output is asked for. -/
  | verbose
  /-- The name of a file. -/
  | file (name : String)
deriving DecidableEq, Repr

/-- An argument that is read as an option. A lone dash is the name of a file. -/
def isOption (arg : List Char) : Bool :=
  arg.head? == some '-' && arg != ['-']

/-- The value of an option: the one that is attached to it, or else the next argument. -/
def optionValue (attached : Option (List Char)) (rest : List (List Char)) :
    Option (List Char × List (List Char)) :=
  match attached, rest with
  | some value, _ => some (value, rest)
  | none, value :: rest => if isOption value then none else some (value, rest)
  | none, [] => none

/-- Splits a long option into its name and the value behind the equals sign. -/
def splitLong (option : List Char) : String × Option (List Char) :=
  let name := option.takeWhile (· != '=')
  let attached := match option.drop name.length with
    | [] => none
    | _ :: value => some value
  (String.ofList name, attached)

/-- The value that is attached to a short option. -/
def attachedToShort : List Char → Option (List Char)
  | [] => none
  | '=' :: value => some value
  | value => some value

/-- Reads joined short options. -/
def readShort (rest : List (List Char)) :
    List Char → Option (List Argument × List (List Char))
  | [] => some ([], rest)
  | 'v' :: more => do
    let (found, rest) ← readShort rest more
    return (.verbose :: found, rest)
  | 's' :: more => do
    let (value, rest) ← optionValue (attachedToShort more) rest
    return ([.option "schema" (String.ofList value)], rest)
  | _ => none

/-- Reads an option. -/
def readOption (names : List String) (option : List Char) (rest : List (List Char)) :
    Option (List Argument × List (List Char)) :=
  match option with
  | '-' :: '-' :: long => do
    let (name, attached) := splitLong long
    if name = "verbose" ∧ attached = none then some ([.verbose], rest)
    else if names.contains name then do
      let (value, rest) ← optionValue attached rest
      return ([.option name (String.ofList value)], rest)
    else none
  | _ => readShort rest (option.drop 1)

/-- Reads arguments, with options of the given names. At most so many are read as the second
argument says. -/
def readArguments (names : List String) : Nat → List (List Char) → Option (List Argument)
  | _, [] => some []
  | 0, _ => none
  | bound + 1, arg :: rest =>
    if arg = ['-', '-'] then some (rest.map fun name => .file (String.ofList name))
    else if isOption arg then do
      let (found, rest) ← readOption names arg rest
      return found ++ (← readArguments names bound rest)
    else do
      return .file (String.ofList arg) :: (← readArguments names bound rest)

/-- The values of an option. -/
def valuesOf (name : String) (arguments : List Argument) : List String :=
  arguments.filterMap fun
    | .option n value => if n = name then some value else none
    | _ => none

/-- The names of files. -/
def filesOf (arguments : List Argument) : List String :=
  arguments.filterMap fun
    | .file name => some name
    | _ => none

/-- The value of an option that may be given once. -/
def single? (name : String) (arguments : List Argument) : Option (Option String) :=
  match valuesOf name arguments with
  | [] => some none
  | [value] => some (some value)
  | _ => none

/-- The value of an option that may be given once, read by `read`. -/
def singleRead? {α : Type} (read : String → Option α) (name : String)
    (arguments : List Argument) : Option (Option α) := do
  match ← single? name arguments with
  | none => return none
  | some value => return some (← read value)

/-- The names of files, of which there is at least one, and none is empty. -/
def someFiles? (names : List String) : Option (List String) :=
  if names.isEmpty || names.any String.isEmpty then none else some names

/-- A name of a file. -/
def file? (name : String) : Option String :=
  if name.isEmpty then none else some name

/-- A format. -/
def format? (name : String) : Option Format :=
  if name = "text" then some .text else if name = "json" then some .json else none

/-- A number of at most 64 bits, possibly with a plus sign. -/
def count? (text : String) : Option Nat :=
  let digits := match text.toList with
    | '+' :: digits => digits
    | digits => digits
  if digits.isEmpty || !digits.all Char.isDigit then none
  else
    let n := Json.digitsToNat digits
    if n < Nat.pow 2 64 then some n else none

/-! ## Requests -/

/-- The request of the arguments behind `validate`. -/
def validateRequest? (args : List (List Char)) : Option Request := do
  let arguments ← readArguments
    ["schema", "uri", "format", "config", "max-stack-depth", "max-errors"] args.length args
  return .validate {
    schemas := ← someFiles? (valuesOf "schema" arguments)
    selector := ← single? "uri" arguments
    format := (← singleRead? format? "format" arguments).getD .text
    config := ← singleRead? file? "config" arguments
    maxStackDepth := ← singleRead? count? "max-stack-depth" arguments
    maxErrors := ← singleRead? count? "max-errors" arguments
    instances := ← someFiles? (filesOf arguments) }

/-- The request of the arguments behind `compile`. -/
def compileRequest? (args : List (List Char)) : Option Request := do
  let arguments ← readArguments ["schema"] args.length args
  if !(filesOf arguments).isEmpty then none
  return .compile (← someFiles? (valuesOf "schema" arguments))

/-- Joined short options in front of a command: whether they ask for the version, or nothing if
they are not known. -/
def readGlobalShort : List Char → Option Bool
  | [] => some false
  | 'v' :: more => readGlobalShort more
  | 'V' :: _ => some true
  | _ => none

/-- The request of all arguments. -/
def requestOf? : List (List Char) → Option Request
  | [] => none
  | arg :: rest =>
    let name := String.ofList arg
    if name = "validate" then validateRequest? rest
    else if name = "compile" then compileRequest? rest
    else if name = "--verbose" then requestOf? rest
    else if name = "--version" then some .version
    else if isOption arg && arg != ['-', '-'] then do
      if ← readGlobalShort (arg.drop 1) then some .version else requestOf? rest
    else none

/-- The request of a command line. -/
def Request.ofArguments? (args : List String) : Option Request :=
  requestOf? (args.map String.toList)

end JsonSchema.Command
