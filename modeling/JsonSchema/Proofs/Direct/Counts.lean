import JsonSchema.Proofs.Direct.Reported
import JsonSchema.Proofs.Evaluation.SingleKeyword
import JsonSchema.Proofs.Number.Rounding

/-!
# Counts and sizes

A number is accepted as a count if it is a whole number that is not negative, in whatever form it is
written. Counts beyond 64 bits are held at the greatest one of 64 bits. For the sizes that values
can have this makes no difference: they compare with the count as with the exact number.
-/

namespace JsonSchema

open Compile Direct

/-! ## Counts -/

namespace Double

variable {x : Double} {k : Nat}

/-- The number is a whole number that is not negative. -/
theorem units_eq_iff_wholePart :
    x.units = k * unitsPerOne ↔ (x.IsWhole ∧ 0 ≤ x.units) ∧ x.wholePart = k := by
  have hone := unitsPerOne_pos
  have habs := natAbs_units x
  unfold wholePart
  constructor
  · intro h
    have hmagnitude : x.magnitude = k * unitsPerOne := by omega
    refine ⟨⟨isWhole_iff.mpr (hmagnitude ▸ Nat.dvd_mul_left _ _), by omega⟩, ?_⟩
    rw [hmagnitude, Nat.mul_div_cancel _ hone]
  · rintro ⟨⟨hwhole, hnonneg⟩, rfl⟩
    have hmagnitude := Nat.div_mul_cancel (isWhole_iff.mp hwhole)
    omega

end Double

namespace Number

variable {m : Number} {n : Nat}

/-- **A count is the exact whole number, held at the greatest one of 64 bits.** -/
theorem toCount?_eq_some :
    m.toCount? = some n ↔
      ∃ k : Nat, m.value = k * Double.unitsPerOne ∧ n = min k (2 ^ 64 - 1) := by
  cases m with
  | integer i word =>
      have hone := Double.unitsPerOne_pos
      have hvalue : ∀ k : Nat, (integer i word).value = k * Double.unitsPerOne ↔ i = k :=
        fun k => Int.mul_eq_mul_right_iff (by omega)
      have hlt : i < 2 ^ 64 := word.2
      simp only [hvalue]
      show (if 0 ≤ i then some i.toNat else none) = some n ↔ _
      constructor
      · intro h
        split at h
        · cases h
          exact ⟨i.toNat, by omega, by omega⟩
        · cases h
      · rintro ⟨k, rfl, rfl⟩
        rw [if_pos (Int.natCast_nonneg k), Int.toNat_natCast]
        congr 1
        omega
  | float x =>
      have hvalue : ∀ k : Nat, (float x).value = k * Double.unitsPerOne ↔ _ :=
        fun k => Double.units_eq_iff_wholePart
      simp only [hvalue]
      show (if x.IsWhole ∧ 0 ≤ x.units then some (min x.wholePart (2 ^ 64 - 1)) else none) = some n
        ↔ _
      constructor
      · intro h
        split at h
        · rename_i hcount
          exact ⟨_, ⟨hcount, rfl⟩, (Option.some.inj h).symm⟩
        · cases h
      · rintro ⟨_, ⟨hcount, rfl⟩, rfl⟩
        exact if_pos hcount

/-- Only then is there no count. -/
theorem toCount?_eq_none :
    m.toCount? = none ↔ ¬ ∃ k : Nat, m.value = k * Double.unitsPerOne := by
  rw [Option.eq_none_iff_forall_ne_some]
  constructor
  · rintro h ⟨k, hk⟩
    exact h _ (toCount?_eq_some.mpr ⟨k, hk, rfl⟩)
  · rintro h n hn
    obtain ⟨k, hk, _⟩ := toCount?_eq_some.mp hn
    exact h ⟨k, hk⟩

end Number

/-! ## The keywords -/

/-- The keywords that bound the size of a value. -/
inductive Count where
  | maxLength
  | minLength
  | maxItems
  | minItems
  | maxProperties
  | minProperties
deriving DecidableEq, Repr

namespace Count

def keyword : Count → String
  | maxLength => "maxLength"
  | minLength => "minLength"
  | maxItems => "maxItems"
  | minItems => "minItems"
  | maxProperties => "maxProperties"
  | minProperties => "minProperties"

/-- The size that the keyword is about: code points, elements or members. Values of other kinds have
none. -/
def size? : Count → Value → Option Nat
  | maxLength, .string s | minLength, .string s => some s.length
  | maxItems, .array items | minItems, .array items => some items.length
  | maxProperties, .object members | minProperties, .object members => some members.length
  | _, _ => none

/-- The facet of the keyword. -/
def facet : Count → Keywords → Option Nat
  | maxLength, k => k.strings.maxLength
  | minLength, k => k.strings.minLength
  | maxItems, k => k.arrays.maxItems
  | minItems, k => k.arrays.minItems
  | maxProperties, k => k.objects.maxProperties
  | minProperties, k => k.objects.minProperties

/-- The condition that the keyword checks. -/
def fails : Count → Nat → Nat → Bool
  | maxLength, size, n | maxItems, size, n | maxProperties, size, n => n < size
  | minLength, size, n | minItems, size, n | minProperties, size, n => size < n

/-- The size is beyond the exact value of the number. -/
def Exceeded : Count → Nat → Number → Prop
  | maxLength, size, m | maxItems, size, m | maxProperties, size, m =>
    m.value < size * Double.unitsPerOne
  | minLength, size, m | minItems, size, m | minProperties, size, m =>
    size * Double.unitsPerOne < m.value

instance : (c : Count) → (size : Nat) → (m : Number) → Decidable (c.Exceeded size m)
  | maxLength, _, _ | maxItems, _, _ | maxProperties, _, _ => inferInstanceAs (Decidable (_ < _))
  | minLength, _, _ | minItems, _, _ | minProperties, _, _ => inferInstanceAs (Decidable (_ < _))

variable {c : Count} {k : Keywords} {m : Number} {size n : Nat} {v : Value}

/-- **The count fails where the exact number is exceeded**, for sizes below the greatest count. -/
theorem fails_iff (h : m.toCount? = some n) (hsize : size < 2 ^ 64 - 1) :
    c.fails size n = true ↔ c.Exceeded size m := by
  obtain ⟨j, hvalue, rfl⟩ := Number.toCount?_eq_some.mp h
  have hone := Double.unitsPerOne_pos
  have hmax : min j (2 ^ 64 - 1) < size ↔ m.value < size * Double.unitsPerOne := by
    rw [hvalue, Int.mul_lt_mul_right (by omega)]
    omega
  have hmin : size < min j (2 ^ 64 - 1) ↔ size * Double.unitsPerOne < m.value := by
    rw [hvalue, Int.mul_lt_mul_right (by omega)]
    omega
  cases c with
  | maxLength | maxItems | maxProperties => exact decide_eq_true_iff.trans hmax
  | minLength | minItems | minProperties => exact decide_eq_true_iff.trans hmin

theorem facet_of_keywords {index : Target → Nat → Prop} {here : Target} {members : Members Value}
    (h : KeywordsOf index here members k) :
    Facet members c.keyword (ReadAs asCount) (c.facet k) := by
  cases c with
  | maxLength => exact h.strings.maxLength
  | minLength => exact h.strings.minLength
  | maxItems => exact h.arrays.maxItems
  | minItems => exact h.arrays.minItems
  | maxProperties => exact h.objects.maxProperties
  | minProperties => exact h.objects.minProperties

/-- The value of the keyword in an accepted schema is a number, and the facet is its count. -/
theorem facet_eq {index : Target → Nat → Prop} {here : Target} {members : Members Value}
    (h : KeywordsOf index here members k) {w : Value} (hw : members.get? c.keyword = some w) :
    ∃ m n, w = .number m ∧ m.toCount? = some n ∧ c.facet k = some n := by
  obtain ⟨n, hread, hfacet⟩ := exists_of_present (facet_of_keywords h) hw
  cases w with
  | number m =>
      refine ⟨m, n, rfl, ?_, hfacet⟩
      unfold asCount at hread
      dsimp only at hread
      split at hread
      · rename_i hcount
        cases hread
        exact hcount
      · cases hread
  | _ => exact nomatch hread

/-- A count checks the size, and does nothing else. -/
theorem checks (h : c.facet k = some n) (hv : c.size? v = some size) :
    k.Checks c.keyword v (c.fails size n) where
  checked := by
    have htasks : .check (c.fails size n) [c.keyword] ∈ k.shapedTasks v := by
      cases c <;> cases v <;> cases hv <;> dsimp only [facet] at h <;>
        simp [Keywords.shapedTasks, StringRules.tasks, ArrayRules.tasks, ObjectRules.tasks, h,
          fails, keyword]
    exact List.mem_append_right _ (List.mem_append_right _ htasks)
  only demand hasks := by
    generalize hkeyword : c.keyword = word at hasks
    cases c with
    | maxLength =>
        cases hasks with
        | maxLength ho => cases hv; cases ho.symm.trans h; exact holds_le_nat _ _
        | _ => exact absurd hkeyword (by decide)
    | minLength =>
        cases hasks with
        | minLength ho => cases hv; cases ho.symm.trans h; exact holds_le_nat _ _
        | _ => exact absurd hkeyword (by decide)
    | maxItems =>
        cases hasks with
        | maxItems ho => cases hv; cases ho.symm.trans h; exact holds_le_nat _ _
        | _ => exact absurd hkeyword (by decide)
    | minItems =>
        cases hasks with
        | minItems ho => cases hv; cases ho.symm.trans h; exact holds_le_nat _ _
        | _ => exact absurd hkeyword (by decide)
    | maxProperties =>
        cases hasks with
        | maxProperties ho => cases hv; cases ho.symm.trans h; exact holds_le_nat _ _
        | _ => exact absurd hkeyword (by decide)
    | minProperties =>
        cases hasks with
        | minProperties ho => cases hv; cases ho.symm.trans h; exact holds_le_nat _ _
        | _ => exact absurd hkeyword (by decide)

/-! ## Documents with a count -/

/-- A schema with a single keyword. -/
def document (c : Count) (m : Number) : Value := .object [(c.keyword, .number m)]

/-- What is reported of a value that is beyond. -/
def violation (c : Count) : Violation := ⟨⟨[]⟩, ⟨[c.keyword]⟩, ""⟩

/-- The keywords of the schema. -/
def keywords : Count → Nat → Keywords
  | maxLength, n => { strings := { maxLength := some n } }
  | minLength, n => { strings := { minLength := some n } }
  | maxItems, n => { arrays := { maxItems := some n } }
  | minItems, n => { arrays := { minItems := some n } }
  | maxProperties, n => { objects := { maxProperties := some n } }
  | minProperties, n => { objects := { minProperties := some n } }

/-- The schema is read as its number is. -/
theorem keywords_document (c : Count) (m : Number) :
    Compile.keywords Validator.rootPlace [(c.keyword, .number m)] =
      match m.toCount? with
      | some n => .done (c.keywords n)
      | none => .failed (flawed Validator.rootPlace c.keyword .notCount) := by
  have hread : Compile.optional [(c.keyword, .number m)] c.keyword asCount Validator.rootPlace =
      match m.toCount? with
      | some n => .ok (some n)
      | none => .error (flawed Validator.rootPlace c.keyword .notCount) := by
    unfold Compile.optional
    rw [Members.get?_cons, if_pos rfl]
    unfold asCount
    dsimp only
    cases m.toCount? <;> rfl
  unfold Compile.keywords Compile.stringRules Compile.arrayRules Compile.objectRules
  cases c <;>
  · dsimp only [keyword] at hread ⊢
    rw [hread]
    cases m.toCount? <;> rfl

theorem documentBase_document (c : Count) (m : Number) :
    documentBase .anonymous (c.document m) = .ok .anonymous := by
  cases c <;> rfl

/-- **The schema is accepted if the number has a count**, and else it is the keyword that is
malformed. -/
theorem ofDocuments_document (c : Count) (m : Number) (config : Config) :
    Validator.ofDocuments [c.document m] config =
      match m.toCount? with
      | some n => .ok (.single (c.keywords n) config)
      | none => .error (.malformed ("#/" ++ c.keyword) .notCount) := by
  have hkeywords := keywords_document c m
  cases hcount : m.toCount? with
  | some n =>
      rw [hcount] at hkeywords
      refine Validator.ofDocuments_single (documentBase_document c m) hkeywords ?_ config
      cases c <;> rfl
  | none =>
      rw [hcount] at hkeywords
      have herror : flawed Validator.rootPlace c.keyword .notCount =
          .malformed ("#/" ++ c.keyword) .notCount := by
        cases c <;> decide +kernel
      rw [herror] at hkeywords
      exact Validator.ofDocuments_single_error (documentBase_document c m) hkeywords config

theorem validate_document (hv : c.size? v = some size) (n : Nat) (config : Config) :
    (Validator.single (c.keywords n) config).validate v =
      .ok (if c.fails size n then [c.violation] else []) := by
  let absent : List (Task Nat) :=
    ["const", "enum", "type"].map fun keyword => .check false [keyword]
  -- in the order of the tasks, the count stands between keywords that are absent
  cases c with
  | maxLength =>
      cases v <;> cases hv
      exact Validator.validate_amid ["const", "enum", "type"] ["minLength", "pattern"] rfl config
  | minLength =>
      cases v <;> cases hv
      exact Validator.validate_amid ["const", "enum", "type", "maxLength"] ["pattern"] rfl config
  | maxItems =>
      cases v <;> cases hv
      exact Validator.validate_amid ["const", "enum", "type"] ["minItems", "uniqueItems"] rfl config
  | minItems =>
      cases v <;> cases hv
      exact Validator.validate_amid ["const", "enum", "type", "maxItems"] ["uniqueItems"] rfl config
  | maxProperties =>
      cases v <;> cases hv
      refine Validator.validate_amid ["const", "enum", "type"] ["minProperties"] ?_ config
      exact congrArg (absent ++ ·) (Eval.tasks_sizedObject (some n) none _)
  | minProperties =>
      cases v <;> cases hv
      refine Validator.validate_amid ["const", "enum", "type", "maxProperties"] [] ?_ config
      exact congrArg (absent ++ ·) (Eval.tasks_sizedObject none (some n) _)

/-- The answer tells whether the exact number is exceeded. -/
theorem validate_iff (hcount : m.toCount? = some n) (hv : c.size? v = some size)
    (hsize : size < 2 ^ 64 - 1) (config : Config) :
    ((Validator.single (c.keywords n) config).validate v = .ok [c.violation] ↔
        c.Exceeded size m) ∧
      ((Validator.single (c.keywords n) config).validate v = .ok [] ↔ ¬ c.Exceeded size m) := by
  rw [validate_document hv n config, ← fails_iff hcount hsize]
  cases c.fails size n <;> simp

/-- A count in the company of other keywords says the same. -/
theorem blames_iff {documents : List Value} {config : Config} {validator : Validator}
    {here : Target} {i : Nat} {members : Members Value}
    (h : validator.HasSchema documents config here i members)
    (huncapped : config.maxErrors = 0) (hv : v.Distinct) {es : Report}
    (hes : validator.runAt here i v = .ok es) {w : Value}
    (hw : members.get? c.keyword = some w) :
    ∃ (m : Number) (k : Nat), w = .number m ∧ m.value = k * Double.unitsPerOne ∧
      ∀ size, c.size? v = some size → size < 2 ^ 64 - 1 →
        (es.Blames here c.keyword ↔ c.Exceeded size m) := by
  obtain ⟨_, k, _, _, hkeywords⟩ := h.exists_keywords
  obtain ⟨m, n, rfl, hcount, _⟩ := facet_eq hkeywords hw
  obtain ⟨j, hvalue, _⟩ := Number.toCount?_eq_some.mp hcount
  refine ⟨m, j, rfl, hvalue, fun size hsize hlt => ?_⟩
  rw [← fails_iff hcount hlt]
  refine h.blames_iff huncapped hw hv hes fun k index hkeywords => ?_
  obtain ⟨m', n', heq, hcount', hfacet⟩ := facet_eq hkeywords hw
  cases heq
  cases hcount.symm.trans hcount'
  exact checks hfacet hsize

end Count

/-- **Sizes are compared with exact numbers.** A number is accepted as a count if its exact value is
a whole number that is not negative. The size of a value, in code points, elements or members, is
reported if it is beyond that exact value, although counts are held at the greatest one of 64 bits.
This is so in whatever schema the keyword stands. -/
theorem sizes_compare_exactly :
    (∀ (c : Count) (m : Number) (config : Config),
      ((∃ validator, Validator.ofDocuments [c.document m] config = .ok validator) ↔
        ∃ k : Nat, m.value = k * Double.unitsPerOne) ∧
      (Validator.ofDocuments [c.document m] config =
          .error (.malformed ("#/" ++ c.keyword) .notCount) ↔
        ¬ ∃ k : Nat, m.value = k * Double.unitsPerOne) ∧
      ∀ validator, Validator.ofDocuments [c.document m] config = .ok validator →
        ∀ v size, c.size? v = some size → size < 2 ^ 64 - 1 →
          (validator.validate v = .ok [c.violation] ↔ c.Exceeded size m) ∧
          (validator.validate v = .ok [] ↔ ¬ c.Exceeded size m)) ∧
    ∀ (documents : List Value) (config : Config) (validator : Validator) here i members,
      validator.HasSchema documents config here i members → config.maxErrors = 0 →
      ∀ v es, v.Distinct → validator.runAt here i v = .ok es →
        ∀ (c : Count) w, members.get? c.keyword = some w →
          ∃ (m : Number) (k : Nat), w = .number m ∧ m.value = k * Double.unitsPerOne ∧
            ∀ size, c.size? v = some size → size < 2 ^ 64 - 1 →
              (es.Blames here c.keyword ↔ c.Exceeded size m) := by
  refine ⟨fun c m config => ?_, fun documents config validator here i members h huncapped v es hv
    hes c w hw => Count.blames_iff h huncapped hv hes hw⟩
  rw [Count.ofDocuments_document]
  cases hcount : m.toCount? with
  | some n =>
      obtain ⟨k, hk, _⟩ := Number.toCount?_eq_some.mp hcount
      refine ⟨iff_of_true ⟨_, rfl⟩ ⟨k, hk⟩, iff_of_false nofun (not_not_intro ⟨k, hk⟩), ?_⟩
      rintro validator ⟨⟩ v size hv hsize
      exact Count.validate_iff hcount hv hsize config
  | none =>
      have hnone := Number.toCount?_eq_none.mp hcount
      exact ⟨iff_of_false nofun hnone, iff_of_true rfl hnone, nofun⟩

/-- Zero with a sign, and a number beyond 64 bits. -/
def minusZero : Number := .float (.zero true)

def beyondWords : Number := .float { negative := false, rank := 0x4450000000000000 }

/-- Two counts for one kind of values. -/
def sized : Members Value :=
  [("minProperties", .number beyondWords), ("maxProperties", .number minusZero)]

theorem sizes_compare_exactly_extremes :
    (∃ validator, Validator.ofDocuments [Count.maxItems.document minusZero] {} = .ok validator ∧
      validator.validate (.array [.null]) = .ok [Count.maxItems.violation]) ∧
    (∃ validator, Validator.ofDocuments [Count.minLength.document beyondWords] {} = .ok validator ∧
      validator.validate (.string "𝄞") = .ok [Count.minLength.violation]) ∧
    ∃ (validator : Validator) (es : Report),
      validator.HasSchema [.object sized] {} Validator.rootPlace 0 sized ∧
      validator.runAt Validator.rootPlace 0 (.object [("x", .null)]) = .ok es ∧
      es.Blames Validator.rootPlace "minProperties" ∧
      es.Blames Validator.rootPlace "maxProperties" := by
  obtain ⟨halone, hcompany⟩ := sizes_compare_exactly
  have hzero : minusZero.value = (0 : Nat) * Double.unitsPerOne := by decide +kernel
  have hbeyond : beyondWords.value = (2 ^ 70 : Nat) * Double.unitsPerOne := by decide +kernel
  obtain ⟨haccepted, _, hreported⟩ := halone .maxItems minusZero {}
  obtain ⟨haccepted', _, hreported'⟩ := halone .minLength beyondWords {}
  obtain ⟨validator, h⟩ := haccepted.mpr ⟨0, hzero⟩
  obtain ⟨validator', h'⟩ := haccepted'.mpr ⟨2 ^ 70, hbeyond⟩
  have hanswer : (Validator.ofDocuments [.object sized] {}).toOption.map (fun validator =>
      (validator.bundle.registry.lookup Validator.rootPlace.key,
        validator.runAt Validator.rootPlace 0 (.object [("x", .null)]))) =
        some (some 0, .ok [Count.maxProperties.violation, Count.minProperties.violation]) := by
    decide +kernel
  obtain ⟨sizing, hsizing, hanswer⟩ := exists_of_toOption_map hanswer
  obtain ⟨hfound, hes⟩ := Prod.mk.inj hanswer
  have hd : ∀ document ∈ [Value.object sized], document.Distinct := by
    simp [sized, Members.Distinct, Value.Distinct, Value.DistinctMembers]
  have hschema : sizing.HasSchema [.object sized] {} Validator.rootPlace 0 sized :=
    ⟨hsizing, hd, hfound, rfl⟩
  have hv : (Value.object [("x", .null)]).Distinct := by
    simp [Members.Distinct, Value.Distinct, Value.DistinctMembers]
  obtain ⟨_, _, hmin, _, hminimum⟩ :=
    hcompany _ _ _ _ _ _ hschema rfl _ _ hv hes .minProperties _ rfl
  obtain ⟨_, _, hmax, _, hmaximum⟩ :=
    hcompany _ _ _ _ _ _ hschema rfl _ _ hv hes .maxProperties _ rfl
  cases hmin
  cases hmax
  refine ⟨⟨validator, h, (hreported _ h _ 1 rfl (by decide)).1.mpr ?_⟩,
    ⟨validator', h', (hreported' _ h' _ 1 rfl (by decide)).1.mpr ?_⟩, sizing, _, hschema, hes,
    (hminimum 1 rfl (by decide)).mpr ?_, (hmaximum 1 rfl (by decide)).mpr ?_⟩ <;>
  decide +kernel

end JsonSchema
