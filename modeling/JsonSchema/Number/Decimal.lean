import JsonSchema.Number.Double
/-!
# Decimal text of binary64 numbers

`ofDecimal?` rounds a decimal numeral to the nearest number, in one step. `shortest` goes the other
way: the fewest digits that still round to the number, and of those the nearest to it.
-/

namespace JsonSchema.Double

/-- The number nearest to `± digits * 10 ^ exponent`, or `none` if it is out of range. Numerals
far outside the range are settled without forming the power of ten. -/
def ofDecimal? (negative : Bool) (digits : Nat) (exponent : Int) : Option Double :=
  if digits = 0 then some (zero negative)
  else
    let places : Int := (Nat.toDigits 10 digits).length + exponent
    if 320 < places then none
    else if places < -340 then some (zero negative)
    else if 0 ≤ exponent then ofRatio? negative (digits * Nat.pow 10 exponent.toNat) 1
    else ofRatio? negative digits (Nat.pow 10 (-exponent).toNat)

/-- The magnitude one rank above, in units. -/
def nextMagnitude (x : Double) : Nat :=
  x.magnitude + if x.rank < Nat.pow 2 52 then 1 else Nat.pow 2 (x.rank / Nat.pow 2 52 - 1)

/-- The magnitude one rank below, in units. -/
def prevMagnitude (x : Double) : Nat :=
  if x.rank < Nat.pow 2 52 then x.rank - 1
  else x.magnitude - Nat.pow 2 ((x.rank - 1) / Nat.pow 2 52 - 1)

/-- A decimal grid point: `digits * 10 ^ exponent`. -/
structure Decimal where
  /-- The digits, as a number. -/
  digits : Nat
  /-- The power of ten. -/
  exponent : Int
deriving DecidableEq, Repr

/-- Whether twice a grid point lies between the bounds, which are given in units, and its distance
from `x`, in a unit common to all points of the grid. The bounds belong to the interval exactly
when `closed` holds. -/
def gridDistance? (x : Double) (closed : Bool) (p : Decimal) : Option Nat :=
  let scaleUp := Nat.pow 10 p.exponent.toNat
  let scaleDown := Nat.pow 10 (-p.exponent).toNat
  let point := p.digits * scaleUp * unitsPerOne
  let low := (x.prevMagnitude + x.magnitude) * scaleDown
  let high := (x.nextMagnitude + x.magnitude) * scaleDown
  let inside :=
    if closed then low ≤ 2 * point ∧ 2 * point ≤ high else low < 2 * point ∧ 2 * point < high
  if inside then
    let here := x.magnitude * scaleDown
    some (if point ≤ here then here - point else point - here)
  else none

/-- The nearest of the two points around `x` on the grid of `10 ^ exponent`, if one of them rounds
to `x`. -/
def onGrid? (x : Double) (exponent : Int) : Option Decimal :=
  let closed := x.rank % 2 == 0
  let digits :=
    x.magnitude * Nat.pow 10 (-exponent).toNat / (Nat.pow 10 exponent.toNat * unitsPerOne)
  let below : Decimal := { digits, exponent }
  let above : Decimal := { below with digits := below.digits + 1 }
  match gridDistance? x closed below, gridDistance? x closed above with
  | some d, some e => some (if d ≤ e then below else above)
  | some _, none => some below
  | none, some _ => some above
  | none, none => none

/-- The power of ten of the leading digit of a positive magnitude. -/
def leadingPower (x : Double) : Int :=
  (Nat.toDigits 10 (x.magnitude * Nat.pow 10 400 / unitsPerOne)).length - 401

/-- Drops trailing zeros of the digits. -/
def Decimal.trim : Nat → Decimal → Decimal
  | 0, p => p
  | n + 1, p =>
    if p.digits % 10 = 0 then trim n { digits := p.digits / 10, exponent := p.exponent + 1 } else p

/-- The decimal with the fewest digits that rounds to the magnitude of `x`: the grids of one digit,
two digits and so on are tried in turn, and seventeen digits always suffice. -/
def shortest (x : Double) : Decimal :=
  if x.rank = 0 then { digits := 0, exponent := 0 }
  else
    let top := x.leadingPower
    match (List.range 17).findSome? fun (places : Nat) => x.onGrid? (top - places) with
    | some p => p.trim 20
    | none => { digits := x.magnitude, exponent := 0 }

end JsonSchema.Double
