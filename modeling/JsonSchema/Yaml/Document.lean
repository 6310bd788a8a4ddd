import JsonSchema.Json.Value
import JsonSchema.Yaml.Layout
import JsonSchema.Yaml.Node
/-!
# YAML documents

Reads the nodes of a document from its tokens. A text holds at most one document.

Each reader takes the tokens and gives what it read together with the other tokens. A reader with
a `bound` reads at most so many elements or entries; the number of all tokens is always enough.
-/

namespace JsonSchema.Yaml

/-- How deep collections may be nested. -/
def maxNesting : Nat := 128

/-- What is read from the front of the tokens, and the other tokens. -/
abbrev TokenReader (α : Type) := List Token → Option (α × List Token)

/-- Where a node stands. -/
inductive Place where
  /-- It is a document or an element of a sequence, outside brackets and braces. -/
  | block
  /-- It is a key or value of a mapping, outside brackets and braces. The dashes of a sequence need
  not be indented further than the keys of the mapping. -/
  | entry
  /-- It is inside brackets or braces. -/
  | flow
deriving DecidableEq, Repr

/-- What handles stand for. -/
abbrev Handles := List (List Char × List Char)

/-- The handles that need not be declared. -/
def defaultHandles : Handles :=
  [(['!'], ['!']), (['!', '!'], "tag:yaml.org,2002:".toList)]

namespace Document

/-! ## Properties -/

/-- The text of a tag in full. -/
def tagText? (handles : Handles) (handle suffix : List Char) : Option (List Char) :=
  if handle.isEmpty then some suffix else (handles.lookup handle).map (· ++ suffix)

/-- Reads a tag and a name, in either order, and tells whether there is any of them. -/
def readProperties (handles : Handles) : TokenReader (Properties String × Bool)
  | .anchor name :: .tag handle suffix :: rest => do
    let tag := Tag.ofText? (← tagText? handles handle suffix)
    return (({ anchor := some name, tag }, true), rest)
  | .tag handle suffix :: .anchor name :: rest => do
    let tag := Tag.ofText? (← tagText? handles handle suffix)
    return (({ anchor := some name, tag }, true), rest)
  | .anchor name :: rest => some (({ anchor := some name }, true), rest)
  | .tag handle suffix :: rest => do
    let tag := Tag.ofText? (← tagText? handles handle suffix)
    return (({ tag }, true), rest)
  | tokens => some (({}, false), tokens)

/-! ## Collections

`node` reads a node at a place. -/

section

variable (node : Place → TokenReader (Node String))

/-- Reads a node, which is empty if there is one of the given tokens. -/
def readUnless (ends : List Token) (place : Place) : TokenReader (Node String)
  | [] => node place []
  | token :: rest =>
    if ends.contains token then some (.empty {}, token :: rest) else node place (token :: rest)

/-- Reads the elements of an indented sequence. -/
def readItems : Nat → TokenReader (List (Node String))
  | bound + 1, .dash :: rest => do
    let (item, rest) ← readUnless node [.dash, .blockEnd] .block rest
    let (items, rest) ← readItems bound rest
    return (item :: items, rest)
  | _, .blockEnd :: rest => some ([], rest)
  | _, _ => none

/-- Reads the elements of a sequence that is not indented further than the mapping around it. -/
def readUnindentedItems : Nat → TokenReader (List (Node String))
  | bound + 1, .dash :: rest => do
    let (item, rest) ← readUnless node [.dash, .key, .value, .blockEnd] .block rest
    let (items, rest) ← readUnindentedItems bound rest
    return (item :: items, rest)
  | _, rest => some ([], rest)

/-- Reads the value of an entry, if there is one. -/
def readValue (ends : List Token) (place : Place) : TokenReader (Node String)
  | .value :: rest => readUnless node ends place rest
  | rest => some (.empty {}, rest)

/-- Reads the entries of an indented mapping. -/
def readEntries : Nat → TokenReader (List (Node String × Node String))
  | bound + 1, .key :: rest => do
    let (key, rest) ← readUnless node [.key, .value, .blockEnd] .entry rest
    let (value, rest) ← readValue node [.key, .value, .blockEnd] .entry rest
    let (entries, rest) ← readEntries bound rest
    return ((key, value) :: entries, rest)
  | _, .blockEnd :: rest => some ([], rest)
  | _, _ => none

/-- Reads the comma in front of each element or entry but the first. -/
def readComma (first : Bool) : List Token → Option (List Token)
  | .comma :: rest => if first then none else some rest
  | tokens => if first then some tokens else none

/-- Reads the key of an entry that stands as an element in brackets. Where the key is empty the
token behind it is passed over. -/
def readSingleKey : TokenReader (Node String)
  | .value :: rest => some (.empty {}, rest)
  | .comma :: rest => some (.empty {}, rest)
  | .closeBracket :: rest => some (.empty {}, rest)
  | tokens => node .flow tokens

/-- Reads an element in brackets. An entry makes a mapping of its own. -/
def readFlowItem : TokenReader (Node String)
  | .key :: rest => do
    let (key, rest) ← readSingleKey node rest
    let (value, rest) ← readValue node [.comma, .closeBracket] .flow rest
    return (.mapping {} [(key, value)], rest)
  | tokens => node .flow tokens

/-- Reads the elements in brackets. -/
def readFlowItems (first : Bool) : Nat → TokenReader (List (Node String))
  | _, .closeBracket :: rest => some ([], rest)
  | 0, _ => none
  | bound + 1, tokens => do
    match ← readComma first tokens with
    | .closeBracket :: rest => return ([], rest)
    | tokens =>
      let (item, rest) ← readFlowItem node tokens
      let (items, rest) ← readFlowItems false bound rest
      return (item :: items, rest)

/-- Reads an entry in braces. Without a question mark or a colon it has no value. -/
def readFlowEntry : TokenReader (Node String × Node String)
  | .key :: rest => do
    let (key, rest) ← readUnless node [.value, .comma, .closeBrace] .flow rest
    let (value, rest) ← readValue node [.comma, .closeBrace] .flow rest
    return ((key, value), rest)
  | tokens => do
    let (key, rest) ← node .flow tokens
    return ((key, .empty {}), rest)

/-- Reads the entries in braces. -/
def readFlowEntries (first : Bool) : Nat → TokenReader (List (Node String × Node String))
  | _, .closeBrace :: rest => some ([], rest)
  | 0, _ => none
  | bound + 1, tokens => do
    match ← readComma first tokens with
    | .closeBrace :: rest => return ([], rest)
    | tokens =>
      let (entry, rest) ← readFlowEntry node tokens
      let (entries, rest) ← readFlowEntries false bound rest
      return (entry :: entries, rest)

end

/-! ## Nodes -/

/-- Reads the content of a node. `nested` reads the nodes inside a collection; it is absent where
collections are nested too deep. -/
def readContent (bound : Nat) (nested : Option (Place → TokenReader (Node String))) (place : Place)
    (properties : Properties String) (given : Bool) : TokenReader (Node String)
  | .scalar text plain :: rest => some (.scalar properties text plain, rest)
  | .openBracket :: rest => do
    let (items, rest) ← readFlowItems (← nested) true bound rest
    return (.sequence properties items, rest)
  | .openBrace :: rest => do
    let (entries, rest) ← readFlowEntries (← nested) true bound rest
    return (.mapping properties entries, rest)
  | tokens =>
    match place, tokens with
    | .entry, .dash :: _ => do
      let (items, rest) ← readUnindentedItems (← nested) bound tokens
      return (.sequence properties items, rest)
    | .flow, _ => if given then some (.empty properties, tokens) else none
    | _, .sequenceStart :: rest => do
      let (items, rest) ← readItems (← nested) bound rest
      return (.sequence properties items, rest)
    | _, .mappingStart :: rest => do
      let (entries, rest) ← readEntries (← nested) bound rest
      return (.mapping properties entries, rest)
    | _, _ => if given then some (.empty properties, tokens) else none

/-- Reads a node at a place. -/
def readNode (handles : Handles) (bound : Nat)
    (nested : Option (Place → TokenReader (Node String))) (place : Place) :
    TokenReader (Node String)
  | .alias name :: rest => some (.alias name, rest)
  | tokens => do
    let ((properties, given), rest) ← readProperties handles tokens
    readContent bound nested place properties given rest

/-- Reads a node with collections nested at most as deep as the third argument says. -/
def readWithin (handles : Handles) (bound : Nat) : Nat → Place → TokenReader (Node String)
  | 0 => readNode handles bound none
  | nesting + 1 => readNode handles bound (some (readWithin handles bound nesting))

/-! ## The document -/

/-- Reads the directives in front of a document. There is at most one version, and each handle is
declared once. -/
def readDirectives (hasVersion : Bool) (handles : Handles) : TokenReader Handles
  | .version major minor :: rest =>
    if hasVersion ∨ major ≠ 1 ∨ (minor ≠ 1 ∧ minor ≠ 2) then none
    else readDirectives true handles rest
  | .handle name meaning :: rest =>
    if (handles.lookup name).isSome then none
    else readDirectives hasVersion (handles ++ [(name, meaning)]) rest
  | tokens => some (handles ++ defaultHandles, tokens)

/-- A document that starts with directives or a mark. -/
def startsExplicitly : List Token → Bool
  | .version .. :: _ => true
  | .handle .. :: _ => true
  | .documentStart :: _ => true
  | _ => false

/-- A document that ends where it starts. -/
def endsHere : List Token → Bool
  | [] => true
  | .documentEnd :: _ => true
  | tokens => startsExplicitly tokens

/-- Reads a document. -/
def read : TokenReader (Node String) := fun tokens =>
  let bound := tokens.length
  if startsExplicitly tokens then do
    match ← readDirectives false [] tokens with
    | (handles, .documentStart :: rest) =>
      if endsHere rest then return (.empty {}, rest)
      else readWithin handles bound maxNesting .block rest
    | _ => none
  else readWithin defaultHandles bound maxNesting .block tokens

/-- Reads the document that the tokens make up, which is empty if there are none. -/
def ofTokens? (tokens : List Token) : Option (Node String) :=
  if tokens.isEmpty then some (.empty {})
  else do
    let (node, rest) ← read tokens
    if rest.all (· = .documentEnd) then some node else none

end Document

end JsonSchema.Yaml
