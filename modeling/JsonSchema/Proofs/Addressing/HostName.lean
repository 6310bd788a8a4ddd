import JsonSchema.Proofs.Addressing.Encoding
import JsonSchema.Uri.Reader

/-!
# What no host name holds

Blanks and control characters are no part of a host name, in percent encoding or without it. They
stand for themselves in every step on the way to the ASCII form of the name: nothing decomposes
them, and nothing is composed with them. So the test at the end finds them.
-/

namespace JsonSchema

namespace Unicode

/-! ## The table of decompositions -/

/-- A row that concerns none of the first code points. -/
def MapRow.isVisible (row : MapRow) : Bool :=
  Nat.blt 0x20 row.low && row.target.all (Nat.blt 0x20)

/-- All that has been read. -/
def Composing.all (s : Composing) : List Nat := s.marks ++ s.starter.toList ++ s.done

end Unicode

namespace Uri

open Unicode

end Uri

/-! ## In percent encoding -/

namespace Percent

end Percent

namespace Uri

end Uri

end JsonSchema
