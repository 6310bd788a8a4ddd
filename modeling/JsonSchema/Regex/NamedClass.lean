import JsonSchema.Unicode.CaseFolding
import JsonSchema.Unicode.Property
import JsonSchema.Unicode.Script
/-!
# Named classes

The names under which an expression can refer to a set of characters: categories, scripts and
properties of Unicode, and the classes of ASCII that stand in `[:` and `:]`.
-/

namespace JsonSchema.Regex

open Unicode

/-- A name as it is compared: in lower case, without separators and without a leading `is`. The
name `isc`, which would then look like the category `c`, is kept. -/
def canonicalName (name : List Char) : String :=
  let folded := name.map Char.toLower
  let hasIs := ['i', 's'].isPrefixOf folded
  let bare := (if hasIs then folded.drop 2 else folded).filter fun c =>
    c.toNat < 0x80 && !(c == ' ' || c == '_' || c == '-')
  if hasIs && bare = ['c'] then "isc" else String.ofList bare

/-- The set that a single name stands for: a property, a category or a script, in this order. Three
abbreviations name categories and properties that are no sets, and are read as categories. -/
def namedSet? (name : List Char) : Option CodeSet :=
  let name := canonicalName name
  let property := if name ∈ ["cf", "sc", "lc"] then none else property? name
  (property.orElse fun _ => category? name).orElse fun _ => script? name

/-- The set of the characters for which a property has a value. -/
def valuedSet? (property value : List Char) : Option CodeSet :=
  let property := canonicalName property
  let value := canonicalName value
  if property ∈ ["generalcategory", "gc", "category"] then category? value
  else if property ∈ ["script", "sc"] then script? value
  else if property ∈ ["scriptextensions", "scx"] then scriptExtensions? value
  else none

/-- The first place where `mark` occurs in a text: what comes before it and what comes after. -/
def splitAtMark? (mark : List Char) : List Char → Option (List Char × List Char)
  | [] => none
  | c :: rest =>
    if mark.isPrefixOf (c :: rest) then some ([], (c :: rest).drop mark.length)
    else (splitAtMark? mark rest).map fun (before, after) => (c :: before, after)

/-- The set that the text in the braces of `\p` stands for. -/
def bracedSet? (text : List Char) : Option CodeSet :=
  match [['!', '='], [':'], ['=']].findSome? fun mark => splitAtMark? mark text with
  | some (property, value) => valuedSet? property value
  | none => namedSet? text

/-- The classes of ASCII. -/
def asciiClasses : List (String × CodeSet) := [
  ("alnum", .ofText "30-39 41-5A 61-7A"),
  ("alpha", .ofText "41-5A 61-7A"),
  ("ascii", .ofText "0-7F"),
  ("blank", .ofText "9 20"),
  ("cntrl", .ofText "0-1F 7F"),
  ("digit", .ofText "30-39"),
  ("graph", .ofText "21-7E"),
  ("lower", .ofText "61-7A"),
  ("print", .ofText "20-7E"),
  ("punct", .ofText "21-2F 3A-40 5B-60 7B-7E"),
  ("space", .ofText "9-D 20"),
  ("upper", .ofText "41-5A"),
  ("word", .ofText "30-39 41-5A 5F 61-7A"),
  ("xdigit", .ofText "30-39 41-46 61-66")]

/-- The class of ASCII with this name. -/
def asciiClass? (name : List Char) : Option CodeSet :=
  asciiClasses.lookup (String.ofList name)

end JsonSchema.Regex
