/-!
# Sets of code points

A set of code points is a list of ranges in ascending order that neither touch nor overlap.
-/

namespace JsonSchema.Unicode

/-- The greatest code point. -/
def maxCodePoint : Nat := 0x10FFFF

/-- A set of code points. -/
structure CodeSet where
  /-- The first and the last code point of each range. -/
  ranges : List (Nat × Nat)
deriving DecidableEq, Repr

namespace CodeSet

/-- The set without elements. -/
def empty : CodeSet := ⟨[]⟩

/-- All code points. -/
def all : CodeSet := ⟨[(0, maxCodePoint)]⟩

instance : Inhabited CodeSet := ⟨empty⟩

/-- Whether one of the ranges holds the code point. The ranges ascend, so the search ends at the
first one beyond it. -/
def searchRanges (n : Nat) : List (Nat × Nat) → Bool
  | [] => false
  | (low, high) :: rest => if n < low then false else n ≤ high || searchRanges n rest

/-- Whether the set holds the code point. -/
def has (set : CodeSet) (n : Nat) : Bool := searchRanges n set.ranges

/-- Whether the set holds the character. -/
def contains (set : CodeSet) (c : Char) : Bool := set.has c.toNat

/-- Joins ranges that touch or overlap to `current`, which starts before all of them. The ranges
come in the order of their starts. -/
def joinOnto (current : Nat × Nat) : List (Nat × Nat) → List (Nat × Nat)
  | [] => [current]
  | next :: rest =>
    if next.1 ≤ current.2 + 1 then joinOnto (current.1, max current.2 next.2) rest
    else current :: joinOnto next rest

/-- Joins ranges that touch or overlap. The ranges come in the order of their starts. -/
def joinRanges : List (Nat × Nat) → List (Nat × Nat)
  | [] => []
  | first :: rest => joinOnto first rest

/-- The set of the code points of some ranges, given in any order. -/
def ofRanges (ranges : List (Nat × Nat)) : CodeSet :=
  ⟨joinRanges (ranges.mergeSort fun a b => a.1 ≤ b.1)⟩

/-- The code points of one range. -/
def range (low high : Nat) : CodeSet := ⟨[(low, high)]⟩

/-- The code points of either set. -/
def union (a b : CodeSet) : CodeSet := ofRanges (a.ranges ++ b.ranges)

/-- The gaps between ascending ranges, from `start` on. -/
def gaps (start : Nat) : List (Nat × Nat) → List (Nat × Nat)
  | [] => if start ≤ maxCodePoint then [(start, maxCodePoint)] else []
  | (low, high) :: rest =>
    if start < low then (start, low - 1) :: gaps (high + 1) rest else gaps (high + 1) rest

/-- The code points that the set does not hold. -/
def complement (set : CodeSet) : CodeSet := ⟨gaps 0 set.ranges⟩

/-- The code points of both sets. -/
def inter (a b : CodeSet) : CodeSet := (union a.complement b.complement).complement

/-- The code points of the first set that the second does not hold. -/
def difference (a b : CodeSet) : CodeSet := (union a.complement b).complement

/-- The code points that exactly one of the sets holds. -/
def symmetricDifference (a b : CodeSet) : CodeSet := difference (union a b) (inter a b)

/-- The union of many sets. -/
def unions (sets : List CodeSet) : CodeSet := ofRanges (sets.flatMap ranges)

end CodeSet

end JsonSchema.Unicode
