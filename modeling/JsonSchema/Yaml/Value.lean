import JsonSchema.Number.Basic
/-!
# YAML values

The values of YAML go beyond those of JSON: numbers may be infinite or no numbers at all, any value
may be the key of a mapping, and a value may bear a tag. The keys of a mapping are all different.
-/

namespace JsonSchema.Yaml

/-- A YAML number. -/
inductive YamlNumber where
  /-- A number that JSON has, too. -/
  | finite (n : Number)
  /-- An infinite number. -/
  | infinite (negative : Bool)
  /-- What is not a number. -/
  | undefined
deriving DecidableEq, Repr

/-- Equality of numbers. An integer never equals a binary64 number, and the two zeros are equal. -/
def YamlNumber.same : YamlNumber → YamlNumber → Bool
  | .finite (.integer a _), .finite (.integer b _) => a == b
  | .finite (.float x), .finite (.float y) => x.units == y.units
  | .infinite a, .infinite b => a == b
  | .undefined, .undefined => true
  | _, _ => false

/-- A YAML value. -/
inductive YamlValue where
  /-- The value `null`. -/
  | null
  /-- A truth value. -/
  | bool (b : Bool)
  /-- A number. -/
  | number (n : YamlNumber)
  /-- A string. -/
  | string (s : String)
  /-- A sequence. -/
  | sequence (items : List YamlValue)
  /-- A mapping, its entries in the order in which they were written. -/
  | mapping (entries : List (YamlValue × YamlValue))
  /-- A value with a tag of the document's own. -/
  | tagged (tag : String) (v : YamlValue)
deriving Inhabited, Repr

namespace YamlValue

/-- The name of a tag without its exclamation mark. -/
def tagName (tag : String) : String :=
  match tag.toList with
  | ['!'] => tag
  | '!' :: name => String.ofList name
  | _ => tag

mutual

/-- Equality of values. The order of the entries of mappings does not matter. -/
def same : YamlValue → YamlValue → Bool
  | .null, .null => true
  | .bool a, .bool b => a == b
  | .number a, .number b => a.same b
  | .string a, .string b => a == b
  | .sequence as, .sequence bs => sameItems as bs
  | .mapping as, .mapping bs => as.length == bs.length && sameEntries as bs
  | .tagged t a, .tagged u b => tagName t == tagName u && same a b
  | _, _ => false

/-- Equality of sequences, element by element. -/
def sameItems : List YamlValue → List YamlValue → Bool
  | [], [] => true
  | a :: as, b :: bs => same a b && sameItems as bs
  | _, _ => false

/-- Every entry on the left has its equal on the right. -/
def sameEntries : List (YamlValue × YamlValue) → List (YamlValue × YamlValue) → Bool
  | [], _ => true
  | (key, value) :: as, bs =>
    (bs.any fun (k, v) => same key k && same value v) && sameEntries as bs

end

end YamlValue

end JsonSchema.Yaml
