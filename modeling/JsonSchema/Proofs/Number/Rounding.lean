import JsonSchema.Proofs.Number.Alike

/-!
# Where equality of numbers is exact

An integer is compared with a binary64 number as the binary64 number that is nearest to it. If the
integer is itself the value of a binary64 number, nothing is rounded, so numbers with the same value
are equal in whatever form they are written. The converse holds below `2 ^ 53`. Beyond, an integer
may equal a binary64 number that has another value.
-/

namespace JsonSchema

namespace Double

/-- The significand is a whole number of `53` bits, unless the number is very small. -/
theorem exists_significand {x : Double} (h : 2 ^ 52 ≤ x.rank) :
    ∃ s q : Nat, 2 ^ 52 ≤ s ∧ s < 2 ^ 53 ∧ x.magnitude = s * 2 ^ q ∧
      x.rank = q * 2 ^ 52 + s := by
  refine ⟨2 ^ 52 + x.rank % 2 ^ 52, x.rank / 2 ^ 52 - 1, ?_, ?_, magnitude_of_le h, ?_⟩ <;> omega

/-- A significand of `53` bits is not rounded. -/
theorem rankOfNat_mul_two_pow {s j : Nat} (hlow : 2 ^ 52 ≤ s) (hhigh : s < 2 ^ 53) :
    rankOfNat (s * 2 ^ j) = (j + 1074) * 2 ^ 52 + s := by
  have hpos : 0 < 2 ^ j := Nat.two_pow_pos j
  have hzero : s * 2 ^ j ≠ 0 := Nat.mul_ne_zero (by omega) (by omega)
  have hlog : (s * 2 ^ j).log2 = 52 + j := by
    refine (Nat.log2_eq_iff hzero).mpr ⟨?_, ?_⟩
    · rw [Nat.pow_add]
      exact Nat.mul_le_mul_right _ hlow
    · rw [Nat.add_right_comm, Nat.pow_add]
      exact Nat.mul_lt_mul_of_pos_right hhigh hpos
  have hquotient : roundedQuotient (s * 2 ^ j * 2 ^ 52) (2 ^ (52 + j)) = s := by
    rw [Nat.mul_assoc, ← Nat.pow_add, Nat.add_comm j 52]
    exact roundedQuotient_mul (Nat.two_pow_pos _)
  unfold rankOfNat
  simp only [Nat.pow_eq]
  rw [if_neg hzero, hlog, hquotient]
  omega

/-- **A whole number that is the value of a binary64 number is not rounded.** -/
theorem rankOfNat_of_magnitude {x : Double} {n : Nat} (h : x.magnitude = n * unitsPerOne)
    (hn : 2 ^ 53 ≤ n) : rankOfNat n = x.rank := by
  obtain ⟨k, hk⟩ : ∃ k, k = 1074 := ⟨1074, rfl⟩
  rw [unitsPerOne_eq hk] at h
  have hpos : 0 < 2 ^ k := Nat.two_pow_pos k
  have hle : n ≤ x.magnitude := h ▸ Nat.le_mul_of_pos_right n hpos
  have hrank : 2 ^ 52 ≤ x.rank := by
    refine Nat.not_lt.mp fun hlt => ?_
    rw [magnitude_of_lt hlt] at hle
    omega
  obtain ⟨s, q, hlow, hhigh, hmagnitude, heq⟩ := exists_significand hrank
  rw [hmagnitude] at h
  -- the significand is smaller than the number, so it is shifted by more than the unit
  have hkq : k ≤ q := by
    refine Nat.not_lt.mp fun hlt => ?_
    have hshift : s * 2 ^ q ≤ s * 2 ^ k :=
      Nat.mul_le_mul_left s (Nat.pow_le_pow_right (by omega) (Nat.le_of_lt hlt))
    have hless : s * 2 ^ k < n * 2 ^ k := Nat.mul_lt_mul_of_pos_right (by omega) hpos
    omega
  have hn' : n = s * 2 ^ (q - k) := by
    refine Nat.eq_of_mul_eq_mul_right hpos ?_
    rw [← h, Nat.mul_assoc, ← Nat.pow_add, Nat.sub_add_cancel hkq]
  rw [hn', rankOfNat_mul_two_pow hlow hhigh, heq]
  omega

end Double

namespace Number

/-- The exact value, in units. -/
def value : Number → Int
  | integer n _ => n * Double.unitsPerOne
  | float x => x.units

/-- The number is an integer from `2 ^ 53` on, on either side of zero. -/
def IsLarge : Number → Prop
  | integer n _ => 2 ^ 53 ≤ n.natAbs
  | float _ => False

/-- The number is not the value of a binary64 number, so the nearest one is taken. -/
def IsRounded (n : Number) : Prop := n.toDouble.units ≠ n.value

/-- The number is a binary64 number. -/
def IsFloat : Number → Prop
  | integer _ _ => False
  | float _ => True

variable {a b : Number}

/-- The binary64 value of an integer, if that has the exact value of a binary64 number. -/
theorem units_of_value {n : Int} {word : IsWord n} {x : Double}
    (h : n * Double.unitsPerOne = x.units) : (toDouble (.integer n word)).units = x.units := by
  by_cases hn : n.natAbs < 2 ^ 53
  · rw [units_integer hn, h]
  have hmagnitude : x.magnitude = n.natAbs * Double.unitsPerOne := by
    rw [← Double.natAbs_units, ← h, Int.natAbs_mul, Int.natAbs_natCast]
  have hrank : (toDouble (.integer n word)).rank = x.rank :=
    Double.rankOfNat_of_magnitude hmagnitude (Nat.not_lt.mp hn)
  -- the magnitudes are the same, and so are the signs
  have hsame : (toDouble (.integer n word)).magnitude = x.magnitude := by
    unfold Double.magnitude
    rw [hrank]
  have hsign : (toDouble (.integer n word)).units =
      if decide (n < 0) = true then -((toDouble (.integer n word)).magnitude : Int)
      else (toDouble (.integer n word)).magnitude := rfl
  have hx : 0 ≤ x.units ↔ 0 ≤ n := by
    have hone := Double.unitsPerOne_pos
    rw [← h]
    exact Int.mul_nonneg_iff_of_pos_right (by omega)
  rw [hsign, hsame, ← Double.natAbs_units]
  by_cases hneg : n < 0
  · rw [if_pos (decide_eq_true hneg)]
    omega
  · rw [if_neg fun hdec => hneg (of_decide_eq_true hdec)]
    omega

/-- **Numbers with the same value are equal**, in whatever forms they are. -/
theorem same_of_value (h : a.value = b.value) : a.same b = true := by
  have hone := Double.unitsPerOne_pos
  cases a with
  | integer n word =>
      cases b with
      | integer m word' =>
          have hnm : n * (Double.unitsPerOne : Int) = m * Double.unitsPerOne := h
          exact beq_iff_eq.mpr ((Int.mul_eq_mul_right_iff (by omega)).mp hnm)
      | float y => exact beq_iff_eq.mpr (units_of_value h)
  | float x =>
      cases b with
      | integer m word' => exact beq_iff_eq.mpr (units_of_value h.symm).symm
      | float y => exact beq_iff_eq.mpr h

/-- Only large integers are rounded. -/
theorem IsRounded.isLarge (h : a.IsRounded) : a.IsLarge := by
  cases a with
  | integer n word => exact Nat.not_lt.mp fun hsmall => h (units_integer hsmall)
  | float x => exact h rfl

theorem IsFloat.units (h : a.IsFloat) : a.toDouble.units = a.value := by
  cases a with
  | integer n word => exact h.elim
  | float x => rfl

/-- What equals a binary64 number has its value, or is rounded to it. -/
theorem isRounded_iff_of_same (h : a.same b = true) (hb : b.IsFloat) :
    a.IsRounded ↔ a.value ≠ b.value := by
  unfold IsRounded
  rw [units_of_same h, hb.units, ne_comm]

/-- **Equal numbers have the same value**, unless one of them is a binary64 number and the other one
an integer that has to be rounded. -/
theorem value_ne_iff_of_same (h : a.same b = true) :
    a.value ≠ b.value ↔ a.IsRounded ∧ b.IsFloat ∨ a.IsFloat ∧ b.IsRounded := by
  have hback : b.same a = true := same_comm a b ▸ h
  constructor
  · intro hne
    cases b with
    | float y => exact .inl ⟨(isRounded_iff_of_same h trivial).mpr hne, trivial⟩
    | integer m word' =>
        cases a with
        | float x => exact .inr ⟨trivial, (isRounded_iff_of_same hback trivial).mpr hne.symm⟩
        | integer n word =>
            have hnm : n = m := eq_of_beq h
            subst hnm
            exact absurd rfl hne
  · rintro (⟨hrounded, hfloat⟩ | ⟨hfloat, hrounded⟩)
    · exact (isRounded_iff_of_same h hfloat).mp hrounded
    · exact ((isRounded_iff_of_same hback hfloat).mp hrounded).symm

/-! ## Transitivity -/

variable {c : Number}

/-- Apart from two integers, numbers are compared by their binary64 values. -/
theorem same_of_units (h : a.toDouble.units = b.toDouble.units)
    (hintegers : ∀ m n word word', a = .integer m word → b = .integer n word' → m = n) :
    a.same b = true := by
  cases a with
  | integer m word =>
      cases b with
      | integer n word' => exact beq_iff_eq.mpr (hintegers m n word word' rfl rfl)
      | float y => exact beq_iff_eq.mpr h
  | float x => cases b <;> exact beq_iff_eq.mpr h

/-- Transitivity fails for two integers only. -/
theorem same_trans (hab : a.same b = true) (hbc : b.same c = true)
    (hintegers : ∀ m n word word', a = .integer m word → c = .integer n word' → m = n) :
    a.same c = true :=
  same_of_units ((units_of_same hab).trans (units_of_same hbc)) hintegers

/-- What equals two different integers is a binary64 number, and both are large. -/
theorem float_between {m n : Int} {word : IsWord m} {word' : IsWord n}
    (hm : (integer m word).same b = true) (hn : b.same (.integer n word') = true) (hne : m ≠ n) :
    ∃ x, b = .float x ∧ (integer m word).IsLarge ∧ (integer n word').IsLarge := by
  have hunits := (units_of_same hm).trans (units_of_same hn)
  cases b with
  | integer k _ => exact absurd ((eq_of_beq hm).trans (eq_of_beq hn)) hne
  | float x =>
      refine ⟨x, rfl, Nat.not_lt.mp fun hsmall => ?_, Nat.not_lt.mp fun hsmall => ?_⟩
      · rw [units_integer hsmall] at hunits
        exact hne ((units_eq_iff hsmall).mp hunits.symm).symm
      · rw [units_integer hsmall] at hunits
        exact hne ((units_eq_iff hsmall).mp hunits)

end Number

end JsonSchema
