import JsonSchema.Number.Decimal
import JsonSchema.Unicode.Property
import JsonSchema.Yaml.Value
/-!
# Showing YAML values

The text of a number has the fewest digits that read back as the number, and a point or an exponent
if it is no integer. Values as a whole are shown in messages only, each with its kind.
-/

namespace JsonSchema.Yaml

/-! ## Numbers -/

/-- Decimal digits with a point behind the first `places` of them, or zeros in front of them if
`places` is not positive. -/
def pointed (digits : List Char) (places : Int) : List Char :=
  if places ≤ 0 then ['0', '.'] ++ List.replicate (-places).toNat '0' ++ digits
  else if digits.length ≤ places then
    digits ++ List.replicate (places.toNat - digits.length) '0' ++ ['.', '0']
  else digits.take places.toNat ++ '.' :: digits.drop places.toNat

/-- Decimal digits with a point behind the first one and an exponent. -/
def scientific (digits : List Char) (places : Int) : List Char :=
  let exponent := 'e' :: (toString (places - 1)).toList
  match digits with
  | [d] => d :: exponent
  | d :: more => d :: '.' :: more ++ exponent
  | [] => exponent

/-- The text of a binary64 number. It is written with an exponent from `10 ^ 16` on, and below
`10 ^ -5`. -/
def doubleText (x : Double) : String :=
  let d := x.shortest
  let digits := Nat.toDigits 10 d.digits
  let places : Int := digits.length + d.exponent
  let unsigned :=
    if d.digits = 0 then ['0', '.', '0']
    else if -5 < places ∧ places ≤ 16 then pointed digits places
    else scientific digits places
  String.ofList (if x.negative then '-' :: unsigned else unsigned)

/-- The text of a number. -/
def YamlNumber.text : YamlNumber → String
  | .finite (.integer n _) => toString n
  | .finite (.float x) => doubleText x
  | .infinite negative => if negative then "-.inf" else ".inf"
  | .undefined => ".nan"

/-! ## Strings -/

/-- The categories of characters that cannot be seen. -/
def invisibleCategories : List String := ["cc", "cf", "cs", "co", "zl", "zp", "zs"]

/-- The character can be seen, and stands on its own. -/
def isVisible (c : Char) : Bool :=
  c == ' ' || (Unicode.assigned.contains c && !Unicode.graphemeExtend.contains c &&
    !invisibleCategories.any fun name => (Unicode.listedCategory name).contains c)

/-- A character in a quoted string. -/
def shownChar (c : Char) : List Char :=
  match c with
  | '\x00' => ['\\', '0']
  | '\t' => ['\\', 't']
  | '\r' => ['\\', 'r']
  | '\n' => ['\\', 'n']
  | '\\' => ['\\', '\\']
  | '"' => ['\\', '"']
  | c =>
    if isVisible c then [c]
    else ['\\', 'u', '\x7b'] ++ Nat.toDigits 16 c.toNat ++ ['\x7d']

/-- A string in quotes. -/
def shownString (s : String) : String :=
  String.ofList ('"' :: s.toList.flatMap shownChar ++ ['"'])

/-! ## Values -/

namespace YamlValue

/-- Text in braces. -/
def braced (text : String) : String := "\x7b" ++ text ++ "\x7d"

/-- Texts with commas between them. -/
def listed (texts : List String) : String := String.intercalate ", " texts

mutual

/-- A value with its kind. -/
def shown : YamlValue → String
  | .null => "Null"
  | .bool b => s!"Bool({b})"
  | .number n => s!"Number({n.text})"
  | .string s => s!"String({shownString s})"
  | .sequence items => s!"Sequence [{listed (shownItems items)}]"
  | .mapping entries => "Mapping " ++ braced (listed (shownEntries entries))
  | .tagged tag v => "TaggedValue " ++ braced s!" tag: !{tagName tag}, value: {shown v} "

/-- The elements of a sequence. -/
def shownItems : List YamlValue → List String
  | [] => []
  | v :: rest => shown v :: shownItems rest

/-- The entries of a mapping. Scalars are shown without their kind where they are keys. -/
def shownEntries : List (YamlValue × YamlValue) → List String
  | [] => []
  | (key, value) :: rest =>
    (match key with
      | .bool b => s!"{b}: {shown value}"
      | .number n => s!"{n.text}: {shown value}"
      | .string s => s!"{shownString s}: {shown value}"
      | key => s!"{shown key}: {shown value}") :: shownEntries rest

end

end YamlValue

end JsonSchema.Yaml
