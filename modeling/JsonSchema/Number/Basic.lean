import JsonSchema.Number.Double
/-!
# JSON numbers

A number is an integer of at most 64 bits, signed or not, or a binary64 number. Which of the two
is decided by the text it was read from: `1` is an integer and `1.0` is not, though they are equal
in value.
-/

namespace JsonSchema

/-- The integers that are kept exactly: those of 64 bits, with or without a sign. -/
def IsWord (n : Int) : Prop := -(Nat.pow 2 63 : Int) ≤ n ∧ n < (Nat.pow 2 64 : Int)

instance (n : Int) : Decidable (IsWord n) := inferInstanceAs (Decidable (_ ∧ _))

/-- A JSON number. -/
inductive Number where
  /-- An exact integer. -/
  | integer (n : Int) (word : IsWord n := by decide)
  /-- A binary64 number. -/
  | float (x : Double)
deriving DecidableEq, Repr

namespace Number

theorem natAbs_lt {n : Int} (h : IsWord n) : n.natAbs < Nat.pow 2 64 := by
  simp only [IsWord, Nat.pow_eq] at h ⊢
  omega

/-- The nearest binary64 number. Exact for integers up to `2 ^ 53` in size. -/
def toDouble : Number → Double
  | integer n word => Double.ofNat (n < 0) n.natAbs (natAbs_lt word)
  | float x => x

/-- The number has no fractional part. -/
def IsWhole : Number → Prop
  | integer _ _ => True
  | float x => x.IsWhole

instance : (a : Number) → Decidable a.IsWhole
  | integer _ _ => inferInstanceAs (Decidable True)
  | float x => inferInstanceAs (Decidable x.IsWhole)

/-- Equality in value. Two integers are compared exactly, every other pair as binary64 numbers. -/
def same : Number → Number → Bool
  | integer a _, integer b _ => a == b
  | a, b => a.toDouble.units == b.toDouble.units

/-- The number as a count, if it is a whole number and not negative. Counts beyond 64 bits are
held at the greatest one, which no text and no container can exceed. -/
def toCount? : Number → Option Nat
  | integer n _ => if 0 ≤ n then some n.toNat else none
  | float x => if x.IsWhole ∧ 0 ≤ x.units then some (min x.wholePart (Nat.pow 2 64 - 1)) else none

end Number

end JsonSchema
