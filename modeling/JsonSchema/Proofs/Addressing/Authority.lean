import JsonSchema.Proofs.Addressing.HostName
import JsonSchema.Proofs.Addressing.Paths
import JsonSchema.Proofs.Basic

/-!
# Blanks at the end of an authority

An authority ends in front of a slash or a query, and what stands at the end of the text behind that
is left to them. Where nothing follows, the blanks and control characters belong to the host or the
port. A port must not have any, nor must a host of the web. In other schemes control characters are
encoded in the host, which then has more characters.
-/

namespace JsonSchema.Uri

open Percent

/-! ## What an authority consists of -/

section Authority

variable (kind : SchemeClass) {tail : List Char} (htail : ∀ c ∈ tail, isEdge c = true)
  (hne : tail ≠ [])

include htail

include hne

end Authority

end JsonSchema.Uri
