import JsonSchema.Number.Basic
import Mathlib.Algebra.Group.Nat.Defs

/-!
# Whole numbers as binary64 numbers

The binary64 number nearest to a whole number is whole as well, and below `2 ^ 53` it is the number
itself. So whether a number is a count does not depend on the form in which it is written.
-/

namespace JsonSchema

namespace Double

theorem magnitude_of_lt {x : Double} (h : x.rank < 2 ^ 52) : x.magnitude = x.rank := by
  unfold magnitude
  rw [Nat.pow_eq, if_pos h]

theorem magnitude_of_le {x : Double} (h : 2 ^ 52 ≤ x.rank) :
    x.magnitude = (2 ^ 52 + x.rank % 2 ^ 52) * 2 ^ (x.rank / 2 ^ 52 - 1) := by
  unfold magnitude
  rw [Nat.pow_eq, if_neg (Nat.not_lt.mpr h)]
  rfl

theorem magnitude_eq_zero {x : Double} : x.magnitude = 0 ↔ x.rank = 0 := by
  by_cases h : x.rank < 2 ^ 52
  · rw [magnitude_of_lt h]
  · have hle := Nat.not_lt.mp h
    have hpos : 0 < (2 ^ 52 + x.rank % 2 ^ 52) * 2 ^ (x.rank / 2 ^ 52 - 1) :=
      Nat.mul_pos (by omega) (Nat.two_pow_pos _)
    rw [magnitude_of_le hle]
    omega

/-- The sign shows in the units, except in those of zero. -/
theorem units_nonneg {x : Double} : 0 ≤ x.units ↔ x.negative = false ∨ x.rank = 0 := by
  unfold units
  rw [← magnitude_eq_zero]
  cases x.negative with
  | true =>
      rw [if_pos rfl]
      simp only [Bool.true_eq_false, false_or]
      omega
  | false => simp

theorem natAbs_units (x : Double) : x.units.natAbs = x.magnitude := by
  unfold units
  split <;> omega

theorem isWhole_iff {x : Double} : x.IsWhole ↔ unitsPerOne ∣ x.magnitude := by
  unfold IsWhole
  generalize unitsPerOne = one
  exact Nat.dvd_iff_mod_eq_zero.symm

theorem unitsPerOne_eq {k : Nat} (h : k = 1074) : unitsPerOne = 2 ^ k := by
  unfold unitsPerOne
  rw [← h]
  rfl

theorem unitsPerOne_dvd {k : Nat} (h : 1074 ≤ k) : unitsPerOne ∣ 2 ^ k := by
  obtain ⟨one, hone⟩ : ∃ one, one = 1074 := ⟨1074, rfl⟩
  rw [unitsPerOne_eq hone]
  exact Nat.pow_dvd_pow 2 (hone ▸ h)

/-- From `2 ^ 53` on, numbers are spaced by more than one. -/
theorem unitsPerOne_dvd_magnitude {x : Double} (h : 1075 * 2 ^ 52 ≤ x.rank) :
    unitsPerOne ∣ x.magnitude := by
  rw [magnitude_of_le (by omega)]
  exact Nat.dvd_mul_left_of_dvd (unitsPerOne_dvd (by omega)) _

/-! ## The number nearest to a whole number -/

theorem rankOfNat_eq_zero {n : Nat} : rankOfNat n = 0 ↔ n = 0 := by
  unfold rankOfNat
  simp only [Nat.pow_eq]
  split <;> omega

theorem roundedQuotient_mul {n d : Nat} (h : 0 < d) : roundedQuotient (n * d) d = n := by
  unfold roundedQuotient
  simp only [Nat.mul_mod_left, Nat.mul_div_left n h]
  rw [if_pos (by omega)]

/-- Whole numbers below `2 ^ 53` are exact. -/
theorem magnitude_ofNat {negative : Bool} {n : Nat} (h : n < Nat.pow 2 64) (hn : n < 2 ^ 53) :
    (ofNat negative n h).magnitude = n * unitsPerOne := by
  by_cases hzero : n = 0
  · subst hzero
    rw [magnitude_eq_zero.mpr (rankOfNat_eq_zero.mpr rfl), Nat.zero_mul]
  have hlog : n.log2 ≤ 52 := Nat.lt_succ_iff.mp ((Nat.log2_lt hzero).mpr hn)
  -- the bits after the leading one are all kept
  have hsplit : n * 2 ^ 52 = n * 2 ^ (52 - n.log2) * 2 ^ n.log2 := by
    rw [Nat.mul_assoc, ← Nat.pow_add, Nat.sub_add_cancel hlog]
  have hlow : 2 ^ 52 ≤ n * 2 ^ (52 - n.log2) := by
    have hle := Nat.mul_le_mul_right (2 ^ (52 - n.log2)) (Nat.log2_self_le hzero)
    rwa [← Nat.pow_add, Nat.add_sub_cancel' hlog] at hle
  have hhigh : n * 2 ^ (52 - n.log2) < 2 ^ 53 := by
    have hlt := Nat.mul_lt_mul_of_pos_right (Nat.lt_log2_self (n := n))
      (Nat.two_pow_pos (52 - n.log2))
    rwa [← Nat.pow_add, Nat.add_right_comm, Nat.add_sub_cancel' hlog] at hlt
  have hrank : (ofNat negative n h).rank =
      (n.log2 + 1022) * 2 ^ 52 + n * 2 ^ (52 - n.log2) := by
    show rankOfNat n = _
    unfold rankOfNat
    simp only [Nat.pow_eq]
    rw [if_neg hzero, hsplit, roundedQuotient_mul (Nat.two_pow_pos _)]
  have hdiv : (ofNat negative n h).rank / 2 ^ 52 - 1 = n.log2 + 1022 := by omega
  have hmod : 2 ^ 52 + (ofNat negative n h).rank % 2 ^ 52 = n * 2 ^ (52 - n.log2) := by omega
  rw [magnitude_of_le (by omega), hdiv, hmod, Nat.mul_assoc, ← Nat.pow_add]
  rw [unitsPerOne_eq (k := 52 - n.log2 + (n.log2 + 1022)) (by omega)]

/-- **The number nearest to a whole number is whole.** -/
theorem isWhole_ofNat (negative : Bool) {n : Nat} (h : n < Nat.pow 2 64) :
    (ofNat negative n h).IsWhole := by
  rw [isWhole_iff]
  by_cases hn : n < 2 ^ 53
  · rw [magnitude_ofNat h hn]
    exact Nat.dvd_mul_left _ _
  have hzero : n ≠ 0 := by omega
  have hlog : 53 ≤ n.log2 := (Nat.le_log2 hzero).mpr (Nat.not_lt.mp hn)
  have hrank : (53 + 1022) * 2 ^ 52 ≤ (ofNat negative n h).rank := by
    show _ ≤ rankOfNat n
    unfold rankOfNat
    simp only [Nat.pow_eq]
    rw [if_neg hzero]
    exact Nat.le_add_right_of_le (Nat.mul_le_mul_right _ (Nat.add_le_add_right hlog _))
  exact unitsPerOne_dvd_magnitude hrank

theorem isWhole_of_units {x y : Double} (h : x.units = y.units) : x.IsWhole ↔ y.IsWhole := by
  unfold IsWhole
  rw [← natAbs_units, ← natAbs_units, h]

end Double

namespace Number

theorem isWhole_toDouble (n : Number) : n.toDouble.IsWhole ↔ n.IsWhole := by
  cases n with
  | integer n word => exact iff_of_true (Double.isWhole_ofNat _ (natAbs_lt word)) trivial
  | float x => exact Iff.rfl

/-- Equal numbers have the same binary64 value. -/
theorem units_of_same {a b : Number} (h : a.same b = true) :
    a.toDouble.units = b.toDouble.units := by
  cases a with
  | integer n word =>
      cases b with
      | integer m word' =>
          have hnm : n = m := eq_of_beq h
          subst hnm
          rfl
      | float y => exact eq_of_beq h
  | float x => cases b <;> exact eq_of_beq h

/-- The number is whole and not negative. -/
def IsCount (n : Number) : Prop := n.IsWhole ∧ 0 ≤ n.toDouble.units

instance (n : Number) : Decidable n.IsCount := inferInstanceAs (Decidable (_ ∧ _))

theorem isCount_of_same {a b : Number} (h : a.same b = true) : a.IsCount ↔ b.IsCount := by
  have hunits := units_of_same h
  unfold IsCount
  rw [← isWhole_toDouble a, ← isWhole_toDouble b, Double.isWhole_of_units hunits, hunits]

/-- Just these numbers are read as counts. -/
theorem isSome_toCount? (n : Number) : n.toCount?.isSome = true ↔ n.IsCount := by
  cases n with
  | integer n word =>
      have hsign : 0 ≤ (toDouble (.integer n word)).units ↔ 0 ≤ n := by
        rw [Double.units_nonneg]
        show decide (n < 0) = false ∨ Double.rankOfNat n.natAbs = 0 ↔ _
        rw [Double.rankOfNat_eq_zero, decide_eq_false_iff_not]
        omega
      show Option.isSome (if 0 ≤ n then _ else _) = true ↔ True ∧ _
      rw [hsign, true_and]
      split <;> simp [*]
  | float x =>
      show Option.isSome (if x.IsWhole ∧ 0 ≤ x.units then _ else _) = true ↔
        x.IsWhole ∧ 0 ≤ x.units
      split <;> simp [*]

end Number

end JsonSchema
