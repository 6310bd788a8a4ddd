/-!
# YAML tokens

A YAML text is a sequence of tokens. Where indentation opens or closes a collection there is a
token for it, too, though no character of the text, and the key of a mapping is announced by a
token even where the text only has a colon behind it.
-/

namespace JsonSchema.Yaml

/-- A token. -/
inductive Token where
  /-- The version of the language. -/
  | version (major minor : Nat)
  /-- A handle for tags, and what it stands for. -/
  | handle (name meaning : List Char)
  /-- The mark of the start of a document. -/
  | documentStart
  /-- The mark of the end of a document. -/
  | documentEnd
  /-- A sequence starts by indentation. -/
  | sequenceStart
  /-- A mapping starts by indentation. -/
  | mappingStart
  /-- A sequence or mapping ends by indentation. -/
  | blockEnd
  /-- An opening bracket. -/
  | openBracket
  /-- A closing bracket. -/
  | closeBracket
  /-- An opening brace. -/
  | openBrace
  /-- A closing brace. -/
  | closeBrace
  /-- The dash in front of an element. -/
  | dash
  /-- A comma. -/
  | comma
  /-- The key of a mapping follows. -/
  | key
  /-- The value of a mapping follows. -/
  | value
  /-- A node that stands elsewhere is repeated. -/
  | alias (name : String)
  /-- The name of the node that follows. -/
  | anchor (name : String)
  /-- The tag of the node that follows: a handle, which is empty for a tag in full, and the rest. -/
  | tag (handle suffix : List Char)
  /-- A scalar. It is plain if it has neither quotes nor an indicator. -/
  | scalar (text : String) (plain : Bool)
deriving DecidableEq, Repr

end JsonSchema.Yaml
