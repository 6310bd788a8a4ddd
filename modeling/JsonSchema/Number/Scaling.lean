import JsonSchema.Number.Double
/-!
# Scaling by powers of ten

A number with a power of ten behind it is scaled by one multiplication or by divisions, and every
one of them rounds. The result may therefore be a neighbour of the number nearest to the exact
product.
-/

namespace JsonSchema.Double

/-- The product rounded to the nearest number, or `none` if it is out of range. -/
def times? (x y : Double) : Option Double :=
  ofRatio? (x.negative ^^ y.negative) (x.magnitude * y.magnitude) (unitsPerOne * unitsPerOne)

/-- The quotient by a number other than zero, rounded to the nearest number, or `none` if it is out
of range. -/
def over? (x y : Double) : Option Double :=
  ofRatio? (x.negative ^^ y.negative) x.magnitude y.magnitude

/-- The exponent of the greatest power of ten in range. -/
def topPower : Nat := 308

/-- The number nearest to a power of ten, or `none` beyond `topPower`. -/
def powerOfTen? (n : Nat) : Option Double :=
  if n ≤ topPower then ofRatio? false (Nat.pow 10 n) 1 else none

/-- Divides by the greatest power of ten so many times, or until nothing is left. -/
def lowered? : Nat → Double → Option Double
  | 0, x => some x
  | rounds + 1, x =>
    if x.rank = 0 then some x
    else do
      let top ← powerOfTen? topPower
      let quotient ← x.over? top
      lowered? rounds quotient

/-- Scales by `10 ^ exponent`: at once as long as there is such a power of ten, otherwise towards
zero in several steps. `none` if the result is out of range. -/
def scaled? (x : Double) (exponent : Int) : Option Double :=
  if x.rank = 0 then some x
  else if 0 ≤ exponent then do
    let power ← powerOfTen? exponent.toNat
    x.times? power
  else do
    let places := (-exponent).toNat
    let rounds := (places - 1) / topPower
    let lowered ← x.lowered? rounds
    let power ← powerOfTen? (places - topPower * rounds)
    lowered.over? power

end JsonSchema.Double
