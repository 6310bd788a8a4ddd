import JsonSchema.Proofs.Addressing.Trailing

/-!
# The `$id` as a reference and as a selector

One text is read in three ways. As the `$id` of a document it is a URI that stands on its own. As a
`$ref` it is joined to the base of the document in which it stands. As a selector it is split at its
first `#`, and only what stands in front of that is read as a URI.

A text with a scheme does not depend on what it is joined to, with one exception, which is part of
the rules for URLs: where the scheme of the base is repeated, and it is one of the web or `file`,
what follows the colon is a relative reference unless it starts with two slashes.

Splitting first makes a difference, too. What does not count at the end of a text counts in front of
a `#`, and once the text is split it is at the end. So a selector loses blanks and control
characters there, and names another document unless they are blanks behind an opaque path.
-/

namespace JsonSchema

namespace Uri

/-- A tab or a line end. They do not count anywhere. -/
def isBreak (c : Char) : Bool := c == '\t' || c == '\n' || c == '\r'

end Uri

namespace Uri

end Uri

/-! ## What the `$id` names -/

namespace BaseUri

variable {text : String} {base : BaseUri}

end BaseUri

end JsonSchema
