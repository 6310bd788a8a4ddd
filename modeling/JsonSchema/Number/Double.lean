/-!
# Binary64 numbers

A finite binary64 number is a sign and a magnitude. The magnitudes are numbered from zero
upwards, so a number is its sign and the *rank* of its magnitude, and the rank is at the same
time the lower 63 bits of the usual encoding.

Every magnitude is a whole number of *units* of `2 ^ -1074`, the least positive one. All
arithmetic here is therefore exact arithmetic on `Int`: two numbers compare as their units do,
and the remainder of a division is the remainder of the units.
-/

namespace JsonSchema

/-- A finite binary64 number. -/
structure Double where
  /-- The sign. Zero has two: `-0.0` is a number of its own that equals `0.0` in value. -/
  negative : Bool
  /-- The place of the magnitude among all magnitudes, counted from zero. -/
  rank : Nat
  /-- There are `2047` binades of `2 ^ 52` magnitudes each. -/
  rank_lt : rank < 2047 * Nat.pow 2 52 := by decide
deriving DecidableEq, Repr

namespace Double

/-- Zero, with its sign. -/
def zero (negative : Bool) : Double := { negative, rank := 0 }

instance : Inhabited Double := ⟨zero false⟩

/-- The magnitude in units of `2 ^ -1074`. Ranks below `2 ^ 52` are the multiples of the unit
themselves; above, each binade spaces its magnitudes twice as wide as the one before it. -/
def magnitude (x : Double) : Nat :=
  if x.rank < Nat.pow 2 52 then x.rank
  else (Nat.pow 2 52 + x.rank % Nat.pow 2 52) * Nat.pow 2 (x.rank / Nat.pow 2 52 - 1)

/-- The exact value in units of `2 ^ -1074`. -/
def units (x : Double) : Int :=
  if x.negative then -(x.magnitude : Int) else x.magnitude

/-- How many units make one. -/
def unitsPerOne : Nat := Nat.pow 2 1074

/-- The number has no fractional part. -/
def IsWhole (x : Double) : Prop := x.magnitude % unitsPerOne = 0

instance (x : Double) : Decidable x.IsWhole := inferInstanceAs (Decidable (_ = _))

/-- The whole part of the magnitude. -/
def wholePart (x : Double) : Nat := x.magnitude / unitsPerOne

/-- The 64 bits of the encoding, as a number. -/
def bits (x : Double) : Nat :=
  if x.negative then Nat.pow 2 63 + x.rank else x.rank

/-! ## Rounding -/

/-- The quotient rounded to the nearest whole number, a tie to the even one. -/
def roundedQuotient (n d : Nat) : Nat :=
  let q := n / d
  let r := n % d
  if 2 * r < d then q else if d < 2 * r then q + 1 else q + q % 2

theorem roundedQuotient_le (n d : Nat) : roundedQuotient n d ≤ n / d + 1 := by
  simp only [roundedQuotient]
  split
  · omega
  · split <;> omega

/-- The rank of the magnitude nearest to a positive whole number: `52` bits after the leading
one are kept. -/
def rankOfNat (n : Nat) : Nat :=
  if n = 0 then 0
  else (n.log2 + 1022) * Nat.pow 2 52 + roundedQuotient (n * Nat.pow 2 52) (Nat.pow 2 n.log2)

theorem rankOfNat_lt {n : Nat} (h : n < Nat.pow 2 64) : rankOfNat n < 2047 * Nat.pow 2 52 := by
  simp only [rankOfNat, Nat.pow_eq] at h ⊢
  split
  · omega
  · rename_i hn
    have hlog : n.log2 < 64 := (Nat.log2_lt hn).2 h
    have hlt : n * 2 ^ 52 / 2 ^ n.log2 < 2 ^ 53 := by
      rw [Nat.div_lt_iff_lt_mul (Nat.two_pow_pos _)]
      have h₁ : n < 2 ^ (n.log2 + 1) := Nat.lt_log2_self
      rw [Nat.pow_succ] at h₁
      omega
    have hround := roundedQuotient_le (n * 2 ^ 52) (2 ^ n.log2)
    omega

/-- The number nearest to a whole number of at most 64 bits. -/
def ofNat (negative : Bool) (n : Nat) (h : n < Nat.pow 2 64) : Double where
  negative := negative
  rank := rankOfNat n
  rank_lt := rankOfNat_lt h

/-- The floor of the binary logarithm of `n / d`. -/
def ratioLog2 (n d : Nat) : Int :=
  let k : Int := (n.log2 : Int) - d.log2
  let reached := if 0 ≤ k then d * Nat.pow 2 k.toNat ≤ n else d ≤ n * Nat.pow 2 (-k).toNat
  if reached then k else k - 1

/-- The number nearest to `± n / d`, a tie to the even one, or `none` if the magnitude is out of
range. Below `2 ^ -1022` the spacing stays at one unit. -/
def ofRatio? (negative : Bool) (n d : Nat) : Option Double :=
  let exponent := max (-1074) (ratioLog2 n d - 52)
  let significand :=
    if 0 ≤ exponent then roundedQuotient n (d * Nat.pow 2 exponent.toNat)
    else roundedQuotient (n * Nat.pow 2 (-exponent).toNat) d
  let rank := if n = 0 then 0 else (exponent + 1074).toNat * Nat.pow 2 52 + significand
  if h : rank < 2047 * Nat.pow 2 52 then some { negative, rank, rank_lt := h } else none

end Double

end JsonSchema
