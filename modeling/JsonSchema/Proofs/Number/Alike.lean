import JsonSchema.Proofs.Number.Whole

/-!
# Two forms of one number

A whole number can be written as an integer, `3`, and as a binary64 number, `3.0`. Below `2 ^ 53`
in size nothing can tell the two forms apart: they are equal to the same numbers, they are the same
counts, and they have the same units.
-/

namespace JsonSchema

namespace Double

theorem unitsPerOne_pos : 0 < unitsPerOne := by
  obtain ⟨one, hone⟩ : ∃ one, one = 1074 := ⟨1074, rfl⟩
  rw [unitsPerOne_eq hone]
  exact Nat.two_pow_pos _

/-- Greater whole numbers are not rounded below `2 ^ 53`. -/
theorem le_magnitude_ofNat {negative : Bool} {n : Nat} (h : n < Nat.pow 2 64) (hn : 2 ^ 53 ≤ n) :
    2 ^ 53 * unitsPerOne ≤ (ofNat negative n h).magnitude := by
  have hzero : n ≠ 0 := by omega
  have hlog : 53 ≤ n.log2 := (Nat.le_log2 hzero).mpr hn
  have hquotient : 2 ^ 52 ≤ roundedQuotient (n * 2 ^ 52) (2 ^ n.log2) := by
    have hle : 2 ^ 52 ≤ n * 2 ^ 52 / 2 ^ n.log2 := by
      rw [Nat.le_div_iff_mul_le (Nat.two_pow_pos _), Nat.mul_comm]
      exact Nat.mul_le_mul_right _ (Nat.log2_self_le hzero)
    unfold roundedQuotient
    dsimp only
    split
    · exact hle
    · split <;> omega
  have hrank : (53 + 1023) * 2 ^ 52 ≤ (ofNat negative n h).rank := by
    show _ ≤ rankOfNat n
    unfold rankOfNat
    simp only [Nat.pow_eq]
    rw [if_neg hzero]
    omega
  have hdiv : 1075 ≤ (ofNat negative n h).rank / 2 ^ 52 - 1 := by omega
  obtain ⟨one, hone⟩ : ∃ one, one = 1074 := ⟨1074, rfl⟩
  calc 2 ^ 53 * unitsPerOne = 2 ^ 52 * 2 ^ (one + 1) := by
        rw [unitsPerOne_eq hone, Nat.pow_succ' (n := one), ← Nat.mul_assoc, ← Nat.pow_succ]
    _ ≤ 2 ^ 52 * 2 ^ ((ofNat negative n h).rank / 2 ^ 52 - 1) :=
        Nat.mul_le_mul_left _ (Nat.pow_le_pow_right (by omega) (by omega))
    _ ≤ (ofNat negative n h).magnitude := by
        rw [magnitude_of_le (by omega)]
        exact Nat.mul_le_mul_right _ (Nat.le_add_right _ _)

end Double

namespace Number

/-- The number is the whole number `k`, in one form or the other. -/
def Writes : Number → Int → Prop
  | integer n _, k => n = k
  | float x, k => x.units = k * Double.unitsPerOne

instance : (n : Number) → (k : Int) → Decidable (n.Writes k)
  | integer n _, k => inferInstanceAs (Decidable (n = k))
  | float x, k => inferInstanceAs (Decidable (x.units = k * Double.unitsPerOne))

/-- The numbers are the same, or they are forms of the same whole number below `2 ^ 53` in size. -/
def Alike (m n : Number) : Prop :=
  m = n ∨ ∃ k : Int, k.natAbs < 2 ^ 53 ∧ m.Writes k ∧ n.Writes k

variable {m n a b : Number} {k : Int}

theorem Alike.refl (n : Number) : n.Alike n := .inl rfl

theorem Alike.symm (h : m.Alike n) : n.Alike m := by
  rcases h with rfl | ⟨k, hk, hm, hn⟩
  · exact .inl rfl
  · exact .inr ⟨k, hk, hn, hm⟩

/-- An integer of small size is exact as a binary64 number. -/
theorem units_integer {k : Int} {word : IsWord k} (hk : k.natAbs < 2 ^ 53) :
    (toDouble (.integer k word)).units = k * Double.unitsPerOne := by
  show (Double.ofNat (k < 0) k.natAbs (natAbs_lt word)).units = _
  unfold Double.units
  rw [Double.magnitude_ofNat _ hk]
  show (if decide (k < 0) = true then _ else _) = _
  generalize Double.unitsPerOne = one
  by_cases hneg : k < 0
  · rw [if_pos (decide_eq_true hneg), Int.natCast_mul, Int.ofNat_natAbs_of_nonpos (by omega),
      Int.neg_mul, Int.neg_neg]
  · rw [if_neg (fun h => hneg (of_decide_eq_true h)), Int.natCast_mul,
      Int.natAbs_of_nonneg (by omega)]

theorem Writes.units (h : n.Writes k) (hk : k.natAbs < 2 ^ 53) :
    n.toDouble.units = k * Double.unitsPerOne := by
  cases n with
  | integer i word =>
      have hi : i = k := h
      subst hi
      exact units_integer hk
  | float x => exact h

/-- A small whole number is told from all others by its units. -/
theorem units_eq_iff {i : Int} {word : IsWord i} (hk : k.natAbs < 2 ^ 53) :
    (toDouble (.integer i word)).units = k * Double.unitsPerOne ↔ i = k := by
  have hone := Double.unitsPerOne_pos
  by_cases hi : i.natAbs < 2 ^ 53
  · rw [units_integer hi]
    refine Int.mul_eq_mul_right_iff ?_
    omega
  · refine iff_of_false (fun heq => ?_) (fun heq => hi (heq ▸ hk))
    -- the other integer is too large, even when it is rounded
    have hlarge : 2 ^ 53 * Double.unitsPerOne ≤ (toDouble (.integer i word)).magnitude :=
      Double.le_magnitude_ofNat (natAbs_lt word) (Nat.not_lt.mp hi)
    rw [← Double.natAbs_units, heq, Int.natAbs_mul, Int.natAbs_natCast] at hlarge
    have hle := Nat.le_of_mul_le_mul_right hlarge hone
    omega

/-- To equal a small whole number is to have its units. -/
theorem Writes.same_iff (h : m.Writes k) (hk : k.natAbs < 2 ^ 53) :
    m.same b = true ↔ b.toDouble.units = k * Double.unitsPerOne := by
  have hunits := h.units hk
  cases m with
  | integer i word =>
      have hi : i = k := h
      subst hi
      cases b with
      | integer j word' =>
          rw [units_eq_iff hk]
          show (i == j) = true ↔ j = i
          rw [beq_iff_eq, eq_comm]
      | float y =>
          show ((toDouble (.integer i word)).units == y.units) = true ↔ y.units = _
          rw [beq_iff_eq, hunits, eq_comm]
  | float x =>
      have hsame : (float x).same b = (x.units == b.toDouble.units) := by
        cases b <;> rfl
      rw [hsame, beq_iff_eq, eq_comm]
      exact iff_of_eq (congrArg (b.toDouble.units = ·) hunits)

theorem same_comm (a b : Number) : a.same b = b.same a := by
  cases a <;> cases b <;> exact Bool.beq_comm

theorem same_refl (a : Number) : a.same a = true := by
  cases a <;> exact beq_self_eq_true _

/-- **Two forms of a number equal the same numbers.** -/
theorem Alike.same_left (h : m.Alike n) (b : Number) : m.same b = n.same b := by
  rcases h with rfl | ⟨k, hk, hm, hn⟩
  · rfl
  · rw [Bool.eq_iff_iff, hm.same_iff hk, hn.same_iff hk]

theorem Alike.same_right (h : m.Alike n) (a : Number) : a.same m = a.same n := by
  rw [same_comm a m, same_comm a n, h.same_left]

theorem Alike.same (h : m.Alike n) : m.same n = true := by
  rw [h.same_left]
  exact same_refl n

theorem Alike.units (h : m.Alike n) : m.toDouble.units = n.toDouble.units := units_of_same h.same

theorem Alike.isWhole_iff (h : m.Alike n) : m.IsWhole ↔ n.IsWhole := by
  rw [← isWhole_toDouble m, ← isWhole_toDouble n, Double.isWhole_of_units h.units]

/-! ## Counts -/

/-- A small whole number is read as the count that it is. -/
theorem Writes.toCount? (h : n.Writes k) (hk : k.natAbs < 2 ^ 53) :
    n.toCount? = if 0 ≤ k then some k.toNat else none := by
  cases n with
  | integer i word =>
      have hi : i = k := h
      subst hi
      rfl
  | float x =>
      have hone := Double.unitsPerOne_pos
      have hx : x.units = k * Double.unitsPerOne := h
      have hmagnitude : x.magnitude = k.natAbs * Double.unitsPerOne := by
        rw [← Double.natAbs_units, hx, Int.natAbs_mul, Int.natAbs_natCast]
      have hwhole : x.IsWhole := Double.isWhole_iff.mpr (hmagnitude ▸ Nat.dvd_mul_left _ _)
      have hsign : 0 ≤ x.units ↔ 0 ≤ k := by
        rw [hx]
        exact Int.mul_nonneg_iff_of_pos_right (by omega)
      have hpart : x.wholePart = k.natAbs := by
        unfold Double.wholePart
        rw [hmagnitude, Nat.mul_div_cancel _ hone]
      show (if x.IsWhole ∧ 0 ≤ x.units then some (min x.wholePart (Nat.pow 2 64 - 1)) else none) = _
      rw [hpart]
      by_cases hnonneg : 0 ≤ k
      · rw [if_pos ⟨hwhole, hsign.mpr hnonneg⟩, if_pos hnonneg, Nat.pow_eq]
        congr 1
        omega
      · rw [if_neg fun hand => hnonneg (hsign.mp hand.2), if_neg hnonneg]

theorem Alike.toCount? (h : m.Alike n) : m.toCount? = n.toCount? := by
  rcases h with rfl | ⟨k, hk, hm, hn⟩
  · rfl
  · rw [hm.toCount? hk, hn.toCount? hk]

end Number

end JsonSchema
