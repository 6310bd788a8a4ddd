import JsonSchema.Regex.Reader
import JsonSchema.Regex.Matcher
/-!
# Patterns

A pattern is the text of a regular expression together with the expression. It is found in a text
if the expression matches any stretch of it.
-/

namespace JsonSchema

/-- The text of a regular expression, and the expression. -/
structure Pattern where
  /-- The text. -/
  text : String
  /-- The expression, ready to be searched for. -/
  expr : Regex.Marked

namespace Pattern

/-- The pattern with the given text, if that is a regular expression. -/
def ofText? (text : String) : Option Pattern :=
  (Regex.Expr.ofText? text).map fun expr => { text, expr := expr.unmarked }

/-- Whether the pattern is found anywhere in the text. -/
def foundIn (pattern : Pattern) (text : String) : Bool :=
  pattern.expr.search none text.toList

end Pattern

end JsonSchema
