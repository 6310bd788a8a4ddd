import JsonSchema.Proofs.Addressing.Authority
import JsonSchema.Proofs.Addressing.Selector

/-!
# Blanks at the end of a URI

Blanks and control characters do not count at the end of a text, but they do where something
follows. Then they belong to what they stand behind: they are encoded in a path or a query, and
refused in a host and a port. So the URI has more characters than the one without them, and the two
are different, with one exception: blanks at the end of an opaque path are left out when the URI is
written.
-/

namespace JsonSchema.Uri

open Percent

/-! ## Opaque paths -/

section Other

variable {scheme : List Char} (hkind : SchemeClass.ofScheme scheme = .other)

include hkind

end Other

section Whole

variable {tail : List Char} (htail : ∀ c ∈ tail, isEdge c = true) (hne : tail ≠ [])

include htail hne

end Whole

end JsonSchema.Uri
