import JsonSchema.Proofs.Number.Rounding

/-!
# Rounding keeps the order

The number nearest to a greater integer is not smaller. So numbers of any form are ordered by their
binary64 values as by their exact ones, except that some come to be equal: a number and the one that
it is rounded to, and two integers that are rounded to the same one. Equality tells the two integers
apart; the order of the binary64 values does not.
-/

namespace JsonSchema

namespace Double

variable {n m d : Nat} {x y : Double}

theorem le_roundedQuotient (n d : Nat) : n / d ≤ roundedQuotient n d := by
  unfold roundedQuotient
  dsimp only
  split
  · exact Nat.le_refl _
  · split <;> omega

/-- A greater numerator has no smaller quotient. -/
theorem roundedQuotient_mono (h : n ≤ m) : roundedQuotient n d ≤ roundedQuotient m d := by
  have hle : n / d ≤ m / d := Nat.div_le_div_right h
  have hn := Nat.div_add_mod n d
  have hm := Nat.div_add_mod m d
  by_cases heq : n / d = m / d
  · -- the same whole part, so the remainders decide
    have hle : n % d ≤ m % d := by
      rw [heq] at hn
      omega
    unfold roundedQuotient
    dsimp only
    rw [heq]
    by_cases hdown : 2 * (m % d) < d
    · have hdown' : 2 * (n % d) < d := by omega
      exact Nat.le_of_eq ((if_pos hdown').trans (if_pos hdown).symm)
    · rw [if_neg hdown]
      by_cases hup : d < 2 * (m % d)
      · rw [if_pos hup]
        split
        · omega
        · split <;> omega
      · rw [if_neg hup]
        split
        · omega
        · exact Nat.le_of_eq (if_neg (by omega))
  · have hup := roundedQuotient_le n d
    have hlow := le_roundedQuotient m d
    omega

/-- The leading bit of a number is kept by rounding, or becomes that of the next power of two. -/
theorem roundedQuotient_bounds (hn : n ≠ 0) :
    2 ^ 52 ≤ roundedQuotient (n * 2 ^ 52) (2 ^ n.log2) ∧
      roundedQuotient (n * 2 ^ 52) (2 ^ n.log2) ≤ 2 ^ 53 := by
  have hpos : 0 < 2 ^ n.log2 := Nat.two_pow_pos _
  constructor
  · refine Nat.le_trans ?_ (le_roundedQuotient _ _)
    rw [Nat.le_div_iff_mul_le hpos, Nat.mul_comm]
    exact Nat.mul_le_mul_right _ (Nat.log2_self_le hn)
  · refine Nat.le_trans (roundedQuotient_le _ _) ?_
    have hlt : n * 2 ^ 52 / 2 ^ n.log2 < 2 ^ 53 := by
      rw [Nat.div_lt_iff_lt_mul hpos]
      have hlog : n < 2 ^ (n.log2 + 1) := Nat.lt_log2_self
      rw [Nat.pow_succ] at hlog
      omega
    omega

/-- **The nearest rank grows with the number.** -/
theorem rankOfNat_mono (h : n ≤ m) : rankOfNat n ≤ rankOfNat m := by
  by_cases hn : n = 0
  · rw [rankOfNat_eq_zero.mpr hn]
    exact Nat.zero_le _
  have hm : m ≠ 0 := by omega
  have hlog : n.log2 ≤ m.log2 :=
    (Nat.le_log2 hm).mpr (Nat.le_trans (Nat.log2_self_le hn) h)
  unfold rankOfNat
  simp only [Nat.pow_eq]
  rw [if_neg hn, if_neg hm]
  by_cases heq : n.log2 = m.log2
  · rw [heq]
    exact Nat.add_le_add_left (roundedQuotient_mono (Nat.mul_le_mul_right _ h)) _
  · -- at most the next power of two is reached
    have hhigh := (roundedQuotient_bounds hn).2
    have hlow := (roundedQuotient_bounds hm).1
    omega

/-- A greater rank has no smaller magnitude. -/
theorem magnitude_mono (h : x.rank ≤ y.rank) : x.magnitude ≤ y.magnitude := by
  by_cases hy : y.rank < 2 ^ 52
  · rw [magnitude_of_lt hy, magnitude_of_lt (by omega)]
    exact h
  obtain ⟨t, q, hlow, _, hmagnitude, hrank⟩ := exists_significand (Nat.not_lt.mp hy)
  rw [hmagnitude]
  by_cases hx : x.rank < 2 ^ 52
  · rw [magnitude_of_lt hx]
    exact Nat.le_trans (by omega) (Nat.le_mul_of_pos_right t (Nat.two_pow_pos q))
  obtain ⟨s, p, _, hhigh, hmagnitude', hrank'⟩ := exists_significand (Nat.not_lt.mp hx)
  rw [hmagnitude']
  by_cases hpq : p = q
  · subst hpq
    exact Nat.mul_le_mul_right _ (by omega)
  · -- one more binade doubles the spacing
    calc s * 2 ^ p ≤ 2 ^ 53 * 2 ^ p := Nat.mul_le_mul_right _ (by omega)
      _ = 2 ^ 52 * 2 ^ (p + 1) := by rw [Nat.pow_succ 2 p]; omega
      _ ≤ 2 ^ 52 * 2 ^ q := Nat.mul_le_mul_left _ (Nat.pow_le_pow_right (by omega) (by omega))
      _ ≤ t * 2 ^ q := Nat.mul_le_mul_right _ hlow

theorem magnitude_ofNat_mono {negative negative' : Bool} (hn : n < Nat.pow 2 64)
    (hm : m < Nat.pow 2 64) (h : n ≤ m) :
    (ofNat negative n hn).magnitude ≤ (ofNat negative' m hm).magnitude :=
  magnitude_mono (x := ofNat negative n hn) (y := ofNat negative' m hm) (rankOfNat_mono h)

/-- From `2 ^ 53` on, magnitudes are spaced by whole numbers. -/
theorem le_rank_of_le_magnitude (h : 2 ^ 53 * unitsPerOne ≤ x.magnitude) :
    1075 * 2 ^ 52 ≤ x.rank := by
  refine Nat.not_lt.mp fun hlt => ?_
  by_cases hsmall : x.rank < 2 ^ 52
  · have hone := Nat.mul_le_mul_left (2 ^ 53) unitsPerOne_pos
    rw [magnitude_of_lt hsmall] at h
    omega
  · obtain ⟨s, q, _, hhigh, hmagnitude, hrank⟩ := exists_significand (Nat.not_lt.mp hsmall)
    obtain ⟨one, hone⟩ : ∃ one, one = 1074 := ⟨1074, rfl⟩
    have hq : q ≤ one := by omega
    rw [unitsPerOne_eq hone, hmagnitude] at h
    have hle : s * 2 ^ q ≤ s * 2 ^ one :=
      Nat.mul_le_mul_left s (Nat.pow_le_pow_right (by decide) hq)
    have hlt : s * 2 ^ one < 2 ^ 53 * 2 ^ one :=
      Nat.mul_lt_mul_of_pos_right hhigh (Nat.two_pow_pos _)
    exact Nat.not_lt.mpr (Nat.le_trans h hle) hlt

/-- So they are whole numbers that are not rounded. -/
theorem exists_rankOfNat (h : 2 ^ 53 * unitsPerOne ≤ x.magnitude) :
    ∃ k, x.magnitude = k * unitsPerOne ∧ rankOfNat k = x.rank := by
  obtain ⟨k, hk⟩ := unitsPerOne_dvd_magnitude (le_rank_of_le_magnitude h)
  rw [Nat.mul_comm] at hk
  refine ⟨k, hk, rankOfNat_of_magnitude hk ?_⟩
  rw [hk] at h
  exact Nat.le_of_mul_le_mul_right h unitsPerOne_pos

variable {negative : Bool} (h : n < Nat.pow 2 64)

/-- A magnitude that is not below a whole number is not below the nearest one to it. -/
theorem magnitude_ofNat_le (hle : n * unitsPerOne ≤ x.magnitude) :
    (ofNat negative n h).magnitude ≤ x.magnitude := by
  by_cases hn : n < 2 ^ 53
  · rw [magnitude_ofNat h hn]
    exact hle
  have hlarge := Nat.mul_le_mul_right unitsPerOne (Nat.not_lt.mp hn)
  obtain ⟨k, hk, hrank⟩ := exists_rankOfNat (Nat.le_trans hlarge hle)
  rw [hk] at hle
  refine magnitude_mono ?_
  rw [← hrank]
  exact rankOfNat_mono (Nat.le_of_mul_le_mul_right hle unitsPerOne_pos)

/-- A magnitude that is not above a whole number is not above the nearest one to it. -/
theorem le_magnitude_ofNat_of_le (hle : x.magnitude ≤ n * unitsPerOne) :
    x.magnitude ≤ (ofNat negative n h).magnitude := by
  by_cases hn : n < 2 ^ 53
  · rw [magnitude_ofNat h hn]
    exact hle
  by_cases hx : 2 ^ 53 * unitsPerOne ≤ x.magnitude
  · obtain ⟨k, hk, hrank⟩ := exists_rankOfNat hx
    rw [hk] at hle
    refine magnitude_mono ?_
    rw [← hrank]
    exact rankOfNat_mono (Nat.le_of_mul_le_mul_right hle unitsPerOne_pos)
  · exact Nat.le_trans (Nat.le_of_lt (Nat.not_le.mp hx)) (le_magnitude_ofNat h (Nat.not_lt.mp hn))

end Double

namespace Number

section

variable {n m : Int} {word : IsWord n} {word' : IsWord m} {x : Double}

/-- The sign of an integer is kept. -/
theorem units_of_nonneg (h : 0 ≤ n) :
    (toDouble (.integer n word)).units = (toDouble (.integer n word)).magnitude := by
  show (if decide (n < 0) = true then _ else _) = _
  exact if_neg fun hneg => Int.not_lt.mpr h (of_decide_eq_true hneg)

theorem units_of_neg (h : n < 0) :
    (toDouble (.integer n word)).units = -((toDouble (.integer n word)).magnitude : Int) := by
  show (if decide (n < 0) = true then _ else _) = _
  exact if_pos (decide_eq_true h)

/-- The value of an integer: its sign, and its size in units. -/
theorem natAbs_value_integer (word : IsWord n) :
    (integer n word).value.natAbs = n.natAbs * Double.unitsPerOne ∧
      (0 ≤ (integer n word).value ↔ 0 ≤ n) := by
  have hone := Double.unitsPerOne_pos
  refine ⟨?_, Int.mul_nonneg_iff_of_pos_right (by omega)⟩
  show (n * (Double.unitsPerOne : Int)).natAbs = _
  rw [Int.natAbs_mul, Int.natAbs_natCast]

theorem units_mono_integers (h : n ≤ m) :
    (toDouble (.integer n word)).units ≤ (toDouble (.integer m word')).units := by
  by_cases hn : n < 0
  · rw [units_of_neg hn]
    by_cases hm : m < 0
    · rw [units_of_neg hm]
      have hle : (toDouble (.integer m word')).magnitude ≤ (toDouble (.integer n word)).magnitude :=
        Double.magnitude_ofNat_mono (natAbs_lt word') (natAbs_lt word) (by omega)
      omega
    · rw [units_of_nonneg (Int.not_lt.mp hm)]
      omega
  · rw [units_of_nonneg (Int.not_lt.mp hn), units_of_nonneg (by omega)]
    refine Int.ofNat_le.mpr (Double.magnitude_ofNat_mono (natAbs_lt word) (natAbs_lt word') ?_)
    omega

/-- An integer that is not above a binary64 number is not rounded to one above it. -/
theorem units_le_of_value_le (h : (integer n word).value ≤ x.units) :
    (toDouble (.integer n word)).units ≤ x.units := by
  obtain ⟨hsize, hsign⟩ := natAbs_value_integer word
  have hx := Double.natAbs_units x
  by_cases hn : 0 ≤ n
  · have hle : (toDouble (.integer n word)).magnitude ≤ x.magnitude :=
      Double.magnitude_ofNat_le (natAbs_lt word) (by omega)
    rw [units_of_nonneg hn]
    omega
  · rw [units_of_neg (Int.not_le.mp hn)]
    by_cases hneg : x.units < 0
    · have hle : x.magnitude ≤ (toDouble (.integer n word)).magnitude :=
        Double.le_magnitude_ofNat_of_le (natAbs_lt word) (by omega)
      omega
    · omega

/-- An integer that is not below a binary64 number is not rounded to one below it. -/
theorem le_units_of_le_value (h : x.units ≤ (integer n word).value) :
    x.units ≤ (toDouble (.integer n word)).units := by
  obtain ⟨hsize, hsign⟩ := natAbs_value_integer word
  have hx := Double.natAbs_units x
  by_cases hn : 0 ≤ n
  · rw [units_of_nonneg hn]
    by_cases hneg : x.units < 0
    · omega
    · have hle : x.magnitude ≤ (toDouble (.integer n word)).magnitude :=
        Double.le_magnitude_ofNat_of_le (natAbs_lt word) (by omega)
      omega
  · have hle : (toDouble (.integer n word)).magnitude ≤ x.magnitude :=
      Double.magnitude_ofNat_le (natAbs_lt word) (by omega)
    rw [units_of_neg (Int.not_le.mp hn)]
    omega

end

variable {a b : Number}

/-- **Rounding keeps the order** of numbers of any form. -/
theorem units_mono (h : a.value ≤ b.value) : a.toDouble.units ≤ b.toDouble.units := by
  cases a with
  | integer n word =>
      cases b with
      | integer m word' =>
          have hone := Double.unitsPerOne_pos
          have hle : n * (Double.unitsPerOne : Int) ≤ m * Double.unitsPerOne := h
          exact units_mono_integers (Int.le_of_mul_le_mul_right hle (by omega))
      | float y => exact units_le_of_value_le h
  | float x =>
      cases b with
      | integer m word' => exact le_units_of_le_value h
      | float y => exact h

/-! ## Numbers with the same nearest binary64 number -/

/-- Two different integers that are rounded to the same binary64 number. -/
def Merged : Number → Number → Prop
  | integer n word, integer m word' =>
    n ≠ m ∧ (toDouble (.integer n word)).units = (toDouble (.integer m word')).units
  | _, _ => False

instance : (a b : Number) → Decidable (a.Merged b)
  | integer _ _, integer _ _ => inferInstanceAs (Decidable (_ ∧ _))
  | integer _ _, float _ => inferInstanceAs (Decidable False)
  | float _, _ => inferInstanceAs (Decidable False)

/-- The numbers are equal, or they are two integers that are rounded to the same number. -/
def Meets (a b : Number) : Prop := a.same b = true ∨ a.Merged b

instance (a b : Number) : Decidable (a.Meets b) := inferInstanceAs (Decidable (_ ∨ _))

/-- **Numbers meet if they have the same binary64 value.** -/
theorem meets_iff : a.Meets b ↔ a.toDouble.units = b.toDouble.units := by
  constructor
  · rintro (hsame | hmerged)
    · exact units_of_same hsame
    · cases a <;> cases b <;> first | exact hmerged.2 | exact hmerged.elim
  · intro h
    cases a with
    | integer n word =>
        cases b with
        | integer m word' =>
            by_cases heq : n = m
            · exact .inl (beq_iff_eq.mpr heq)
            · exact .inr ⟨heq, h⟩
        | float y => exact .inl (beq_iff_eq.mpr h)
    | float x => exact .inl (same_of_units h fun _ _ _ _ hx => nomatch hx)

theorem meets_comm : a.Meets b ↔ b.Meets a := by
  rw [meets_iff, meets_iff, eq_comm]

/-- Integers that are rounded to the same number are large, and equality tells them apart. -/
theorem Merged.isLarge (h : a.Merged b) : a.IsLarge ∧ b.IsLarge ∧ a.same b = false := by
  cases a with
  | float x => exact h.elim
  | integer n word =>
      cases b with
      | float y => exact h.elim
      | integer m word' =>
          obtain ⟨hne, hunits⟩ := h
          refine ⟨Nat.not_lt.mp fun hsmall => ?_, Nat.not_lt.mp fun hsmall => ?_,
            beq_eq_false_iff_ne.mpr hne⟩
          · rw [units_integer hsmall] at hunits
            exact hne ((units_eq_iff hsmall).mp hunits.symm).symm
          · rw [units_integer hsmall] at hunits
            exact hne ((units_eq_iff hsmall).mp hunits)

/-- **Binary64 values are ordered as exact values are**, unless the numbers meet. -/
theorem units_lt_iff : a.toDouble.units < b.toDouble.units ↔ a.value < b.value ∧ ¬ a.Meets b := by
  rw [meets_iff]
  constructor
  · intro h
    exact ⟨Int.not_le.mp fun hle => Int.not_lt.mpr (units_mono hle) h, Int.ne_of_lt h⟩
  · rintro ⟨hlt, hne⟩
    exact Int.lt_iff_le_and_ne.mpr ⟨units_mono (Int.le_of_lt hlt), hne⟩

theorem units_le_iff : a.toDouble.units ≤ b.toDouble.units ↔ a.value < b.value ∨ a.Meets b := by
  rw [Int.le_iff_lt_or_eq, units_lt_iff, ← meets_iff]
  by_cases h : a.Meets b
  · exact iff_of_true (.inr h) (.inr h)
  · simp only [h, not_false_eq_true, and_true]

end Number

end JsonSchema
