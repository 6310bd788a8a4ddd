import JsonSchema.Json.Value
import JsonSchema.Yaml.Shown
/-!
# JSON values of YAML values

Tags are left out. Keys that are strings, numbers or truth values become the names of members, by
their texts; other keys, and numbers that are not finite, have no counterpart in JSON. Where two
keys have the same text the member keeps its first place and takes the last value.
-/

namespace JsonSchema.Yaml

/-- Why a YAML value has no counterpart in JSON. -/
inductive ConversionError where
  /-- A key is neither a string nor a number nor a truth value. -/
  | key (key : YamlValue)
  /-- A number is not finite. -/
  | number (n : YamlNumber)
deriving Repr

/-- What has no counterpart. -/
def ConversionError.message : ConversionError → String
  | key k => s!"unsupported YAML map key: {k.shown}"
  | number n => s!"number {n.text} has no JSON representation"

namespace YamlValue

/-- The name of the member that a key stands for. -/
def memberName : YamlValue → Except ConversionError String
  | .string s => .ok s
  | .number n => .ok n.text
  | .bool b => .ok (toString b)
  | k => .error (.key k)

mutual

/-- The JSON value of a YAML value. -/
def toJson : YamlValue → Except ConversionError Value
  | .null => .ok .null
  | .bool b => .ok (.bool b)
  | .number (.finite n) => .ok (.number n)
  | .number n => .error (.number n)
  | .string s => .ok (.string s)
  | .sequence items => .array <$> toJsonItems items
  | .mapping entries => .object <$> toJsonEntries [] entries
  | .tagged _ v => toJson v

/-- The elements of an array. -/
def toJsonItems : List YamlValue → Except ConversionError (List Value)
  | [] => .ok []
  | v :: rest => do
    let v ← toJson v
    return v :: (← toJsonItems rest)

/-- The members of an object, in addition to those that are known. -/
def toJsonEntries (done : Members Value) :
    List (YamlValue × YamlValue) → Except ConversionError (Members Value)
  | [] => .ok done
  | (key, value) :: rest => do
    let name ← memberName key
    let v ← toJson value
    toJsonEntries (done.set name v) rest

end

end YamlValue

end JsonSchema.Yaml
