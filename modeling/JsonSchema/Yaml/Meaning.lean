import JsonSchema.Json.Reader
import JsonSchema.Number.Decimal
import JsonSchema.Yaml.Node
import JsonSchema.Yaml.Value
/-!
# What scalars mean

A plain scalar without a tag is `null`, a truth value or a number if it is spelt like one, and a
string otherwise. A tag of the standard types decides the type, and the spelling must fit it.
-/

namespace JsonSchema.Yaml

/-- The text spells `null`. -/
def spellsNull (text : String) : Bool :=
  ["null", "Null", "NULL", "~"].contains text

/-- The truth value that a text spells. -/
def spelledBool? (text : String) : Option Bool :=
  if ["true", "True", "TRUE"].contains text then some true
  else if ["false", "False", "FALSE"].contains text then some false
  else none

/-! ## Integers -/

/-- The value of a digit. -/
def digit? (radix : Nat) (c : Char) : Option Nat :=
  (Json.hexDigit? c).filter (· < radix)

/-- The number that digits spell. There must be at least one. -/
def digitsNumber? (radix : Nat) (digits : List Char) : Option Nat :=
  if digits.isEmpty then none else digits.foldlM (fun n c => (digit? radix c).map (radix * n + ·)) 0

/-- Digits that start with a needless zero. Such a text is no number. -/
def hasNeedlessZero : List Char → Bool
  | '0' :: c :: rest => (c :: rest).all Char.isDigit
  | _ => false

/-- The number that a text without sign spells. -/
def magnitude? : List Char → Option Nat
  | '0' :: 'x' :: digits => digitsNumber? 16 digits
  | '0' :: 'o' :: digits => digitsNumber? 8 digits
  | '0' :: 'b' :: digits => digitsNumber? 2 digits
  | digits => if hasNeedlessZero digits then none else digitsNumber? 10 digits

/-- The integer that a text spells. -/
def integer? : List Char → Option Int
  | '-' :: rest => (magnitude? rest).map fun n => -(n : Int)
  | '+' :: rest => (magnitude? rest).map Int.ofNat
  | cs => (magnitude? cs).map Int.ofNat

/-- The number of an integer, if that has at most 64 bits. -/
def wordNumber? (n : Int) : Option YamlNumber :=
  if h : IsWord n then some (.finite (.integer n h)) else none

/-- The integers of at most 128 bits, with or without a sign. -/
def isDoubleWord (n : Int) : Bool :=
  -(Nat.pow 2 127 : Int) ≤ n && n < (Nat.pow 2 128 : Int)

/-! ## Binary64 numbers -/

/-- The number nearest to a decimal numeral, if it is in range. There must be a digit in front of
the point or behind it. -/
def decimal? (cs : List Char) : Option Double := do
  let (negative, cs) := match cs with
    | '-' :: rest => (true, rest)
    | _ => (false, cs)
  let (whole, rest) := Json.spanDigits cs
  let (fraction, rest) := match rest with
    | '.' :: rest => Json.spanDigits rest
    | _ => ([], rest)
  let (exponent, rest) ← Json.readExponent rest
  if (whole.isEmpty && fraction.isEmpty) || !rest.isEmpty then none
  Double.ofDecimal? negative (Json.digitsToNat (whole ++ fraction))
    (exponent.getD 0 - fraction.length)

/-- A text without the plus sign in front of it. -/
def withoutPlus : List Char → List Char
  | '+' :: rest => rest
  | cs => cs

/-- The number that a text spells, be it infinite or none at all. -/
def float? (text : String) : Option YamlNumber :=
  let cs := text.toList
  let unsigned := withoutPlus cs
  let doublySigned := unsigned != cs && (unsigned.head? == some '+' || unsigned.head? == some '-')
  if doublySigned then none
  else if [".inf", ".Inf", ".INF"].contains (String.ofList unsigned) then some (.infinite false)
  else if ["-.inf", "-.Inf", "-.INF"].contains text then some (.infinite true)
  else if [".nan", ".NaN", ".NAN"].contains text then some .undefined
  else (decimal? unsigned).map fun x => .finite (.float x)

/-- Digits with a needless zero behind a sign. -/
def isZeroPadded : List Char → Bool
  | '-' :: rest => hasNeedlessZero rest
  | cs => hasNeedlessZero (withoutPlus cs)

/-! ## Scalars -/

/-- What a text means that spells no integer. -/
def floatOrString (text : String) : YamlValue :=
  if isZeroPadded text.toList then .string text
  else
    match float? text with
    | some n => .number n
    | none => .string text

/-- What a plain scalar without tag means. An integer of more than 64 bits has no meaning; with
more than 128 bits it is read as a decimal numeral. -/
def plainMeaning? (text : String) : Option YamlValue :=
  if text.isEmpty || spellsNull text then some .null
  else
    match spelledBool? text with
    | some b => some (.bool b)
    | none =>
      match integer? text.toList with
      | some n =>
        if isDoubleWord n then (wordNumber? n).map .number else some (floatOrString text)
      | none => some (floatOrString text)

/-- What a scalar means, given its tag, if it has one that matters. -/
def meaning? (tag : Option Tag) (text : String) (plain : Bool) : Option YamlValue :=
  match tag with
  | some .null => if spellsNull text then some .null else none
  | some .bool => (spelledBool? text).map .bool
  | some .int => (integer? text.toList >>= wordNumber?).map .number
  | some .float => (float? text).map .number
  | some .string => some (.string text)
  | _ => if plain then plainMeaning? text else some (.string text)

end JsonSchema.Yaml
