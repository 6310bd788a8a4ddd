import JsonSchema.Proofs.Direct.Alike
import JsonSchema.Proofs.Evaluation.SingleKeyword
import JsonSchema.Proofs.Number.Rounding

/-!
# The laws of equality

Objects are equal if under each name both have nothing or both have equal values. So equality is
reflexive, symmetric and blind to the order of members, and what is built on it is, too: the order
of elements makes no difference to `uniqueItems`, and a value passes its own `const`.

It is not transitive. Two large integers may equal the same binary64 number, and they differ all the
same. This is the only way in which transitivity fails.
-/

namespace JsonSchema

section

variable {α : Type} {R S T : α → α → Prop} {o o' o'' : Option α}

theorem rel_swap (h : Option.Rel R o o')
    (hRS : ∀ a b, o = some a → o' = some b → R a b → S b a) : Option.Rel S o' o := by
  cases h with
  | none => exact .none
  | some hab => exact .some (hRS _ _ rfl rfl hab)

theorem rel_comp (h : Option.Rel R o o') (h' : Option.Rel S o' o'')
    (hRS : ∀ a b c, o = some a → o' = some b → o'' = some c → R a b → S b c → T a c) :
    Option.Rel T o o'' := by
  cases h with
  | none => cases h'; exact .none
  | some hab =>
      cases h' with
      | some hbc => exact .some (hRS _ _ _ rfl rfl rfl hab hbc)

end

/-- There is a member under each name, and under no other one. -/
theorem Members.isSome_get? {members : Members Value} (hd : members.Distinct) {name : String} :
    (members.get? name).isSome = true ↔ name ∈ members.map Prod.fst := by
  rw [Option.isSome_iff_exists, List.mem_map]
  constructor
  · rintro ⟨v, hv⟩
    exact ⟨_, mem_of_get? hv, rfl⟩
  · rintro ⟨p, hp, rfl⟩
    exact ⟨p.2, get?_of_mem hd hp⟩

namespace Value

variable {a b c : Value} {as bs : List Value} {ms ns : Members Value}

/-! ## Equality of arrays and objects -/

theorem same_array_iff : (Value.array as).same (.array bs) = true ↔
    List.Forall₂ (fun a b => a.same b = true) as bs := by
  constructor
  · intro h
    obtain ⟨own, heq, hown⟩ := same_array h
    cases heq
    exact hown
  · intro h
    rw [same]
    exact sameItems_of_forall₂ h

/-- **Objects are equal if they have equal values under each name.** -/
theorem same_object_iff (hd : (Value.object ms).Distinct) (hd' : (Value.object ns).Distinct) :
    (Value.object ms).same (.object ns) = true ↔
      ∀ name, Option.Rel (fun v w => v.same w = true) (ms.get? name) (ns.get? name) := by
  refine ⟨rel_get?_of_same hd, fun h => ?_⟩
  have hms := (distinct_object.mp hd).1
  have hns := (distinct_object.mp hd').1
  -- the names are the same, so there are as many members
  have hnames : (ms.map Prod.fst).Perm (ns.map Prod.fst) := by
    refine (List.perm_ext_iff_of_nodup hms hns).mpr fun name => ?_
    rw [← Members.isSome_get? hms, ← Members.isSome_get? hns]
    have hname := h name
    generalize ms.get? name = o, ns.get? name = o' at hname
    cases hname <;> rfl
  have hlength := hnames.length_eq
  rw [List.length_map, List.length_map] at hlength
  rw [same, hlength, beq_self_eq_true, Bool.true_and, sameMembers_eq_all]
  refine List.all_eq_true.mpr fun p hp => ?_
  have hname := h p.1
  rw [Members.get?_of_mem hms hp] at hname
  generalize ns.get? p.1 = o at hname
  cases hname with
  | some hsame => exact hsame

/-! ## Reflexivity and symmetry -/

theorem same_refl (hd : a.Distinct) : a.same a = true := (Alike.refl a).same hd

theorem same_symm (ha : a.Distinct) (hb : b.Distinct) (h : a.same b = true) :
    b.same a = true := by
  -- what is inside is less high
  induction hheight : a.height using Nat.strongRecOn generalizing a b with
  | ind height ih =>
      cases b with
      | null => rw [same_null h]; rfl
      | bool c => rw [same_bool h]; exact beq_self_eq_true c
      | string s => rw [same_string h]; exact beq_self_eq_true s
      | number n =>
          obtain ⟨m, rfl, hmn⟩ := same_number h
          rw [same, Number.same_comm]
          exact hmn
      | array bs =>
          obtain ⟨as, rfl, hitems⟩ := same_array h
          refine same_array_iff.mpr (List.Forall₂.flip ?_)
          obtain ⟨hlength, hzip⟩ := List.forall₂_iff_zip.mp hitems
          refine forall₂_of_zip hlength fun p hp => ?_
          obtain ⟨hpa, hpb⟩ := List.of_mem_zip hp
          exact ih _ (hheight ▸ height_lt_of_mem_items hpa) (distinct_array.mp ha _ hpa)
            (distinct_array.mp hb _ hpb) (hzip hp) rfl
      | object ns =>
          obtain ⟨ms, rfl, _⟩ := same_object h
          refine (same_object_iff hb ha).mpr fun name => ?_
          refine rel_swap (rel_get?_of_same ha h name) fun v w hv hw hsame => ?_
          have hv := Members.mem_of_get? hv
          have hw := Members.mem_of_get? hw
          exact ih _ (hheight ▸ height_lt_of_mem_members hv) ((distinct_object.mp ha).2 _ hv)
            ((distinct_object.mp hb).2 _ hw) hsame rfl

theorem same_comm (ha : a.Distinct) (hb : b.Distinct) : a.same b = b.same a := by
  rw [Bool.eq_iff_iff]
  exact ⟨same_symm ha hb, same_symm hb ha⟩

/-! ## How far transitivity goes -/

/-- Equal values have equal parts, step by step. -/
theorem step_same (hd : a.Distinct) (h : a.same c = true) (token : String) :
    Option.Rel (fun v w => v.same w = true) (Pointer.step a token) (Pointer.step c token) := by
  cases c with
  | array cs =>
      obtain ⟨as, rfl, hitems⟩ := same_array h
      unfold Pointer.step
      dsimp only
      cases Pointer.index? token.toList with
      | none => exact .none
      | some i => exact rel_getElem? hitems i
  | object ns =>
      obtain ⟨ms, rfl, _⟩ := same_object h
      exact rel_get?_of_same hd h token
  | null => rw [same_null h]; exact .none
  | bool b => rw [same_bool h]; exact .none
  | string s => rw [same_string h]; exact .none
  | number n => obtain ⟨m, rfl, _⟩ := same_number h; exact .none

/-- **Equal values have equal parts wherever a way leads.** -/
theorem walk_same (hd : a.Distinct) (h : a.same c = true) (tokens : List String) :
    Option.Rel (fun v w => v.same w = true) (Pointer.walk tokens a) (Pointer.walk tokens c) := by
  induction tokens generalizing a c with
  | nil => exact .some h
  | cons token rest ih =>
      rw [Pointer.walk_cons, Pointer.walk_cons]
      have hstep := step_same hd h token
      cases ha : Pointer.step a token with
      | none =>
          rw [ha] at hstep
          generalize Pointer.step c token = o at hstep
          cases hstep
          exact .none
      | some v =>
          rw [ha] at hstep
          generalize Pointer.step c token = o at hstep
          cases hstep with
          | some hsame => exact ih ((Pointer.step_inside ha).2 hd) hsame

/-- Where both values have integers, they have the same ones. -/
def IntegersAgree (a c : Value) : Prop :=
  ∀ tokens m n (word : IsWord m) (word' : IsWord n),
    Pointer.walk tokens a = some (.number (.integer m word)) →
    Pointer.walk tokens c = some (.number (.integer n word')) → m = n

theorem IntegersAgree.step (h : IntegersAgree a c) {token : String} {v w : Value}
    (hv : Pointer.step a token = some v) (hw : Pointer.step c token = some w) :
    IntegersAgree v w := by
  intro tokens m n word word' hm hn
  refine h (token :: tokens) m n word word' ?_ ?_
  · rw [Pointer.walk_cons, hv]
    exact hm
  · rw [Pointer.walk_cons, hw]
    exact hn

theorem integersAgree_of_same (hd : a.Distinct) (h : a.same c = true) : IntegersAgree a c := by
  intro tokens m n word word' hm hn
  have hsame := walk_same hd h tokens
  rw [hm, hn] at hsame
  cases hsame with
  | some hsame =>
      rw [same] at hsame
      exact eq_of_beq hsame

/-- **Transitivity fails at integers only.** -/
theorem same_trans (ha : a.Distinct) (hb : b.Distinct) (hc : c.Distinct)
    (hab : a.same b = true) (hbc : b.same c = true) (hagree : IntegersAgree a c) :
    a.same c = true := by
  induction hheight : a.height using Nat.strongRecOn generalizing a b c with
  | ind height ih =>
      cases c with
      | null => rwa [same_null hbc] at hab
      | bool d => rwa [same_bool hbc] at hab
      | string s => rwa [same_string hbc] at hab
      | number p =>
          obtain ⟨n, rfl, hnp⟩ := same_number hbc
          obtain ⟨m, rfl, hmn⟩ := same_number hab
          rw [same]
          refine Number.same_trans hmn hnp fun i j word word' hi hj => ?_
          exact hagree [] i j word word' (by rw [hi]; rfl) (by rw [hj]; rfl)
      | array cs =>
          obtain ⟨bs, rfl, hitems'⟩ := same_array hbc
          obtain ⟨as, rfl, hitems⟩ := same_array hab
          rw [List.forall₂_iff_get] at hitems hitems'
          refine same_array_iff.mpr (List.forall₂_iff_get.mpr
            ⟨hitems.1.trans hitems'.1, fun i hi hk => ?_⟩)
          have hj : i < bs.length := hitems.1 ▸ hi
          have hstep : ∀ (items : List Value) (h : i < items.length),
              Pointer.step (.array items) (toString i) = some (items.get ⟨i, h⟩) :=
            fun items h => (Pointer.step_element items i).trans (List.getElem?_eq_getElem h)
          have hmem := List.get_mem as ⟨i, hi⟩
          exact ih _ (hheight ▸ height_lt_of_mem_items hmem) (distinct_array.mp ha _ hmem)
            (distinct_array.mp hb _ (List.get_mem bs ⟨i, hj⟩))
            (distinct_array.mp hc _ (List.get_mem cs ⟨i, hk⟩)) (hitems.2 i hi hj)
            (hitems'.2 i hj hk) (hagree.step (hstep as hi) (hstep cs hk)) rfl
      | object ps =>
          obtain ⟨ns, rfl, _⟩ := same_object hbc
          obtain ⟨ms, rfl, _⟩ := same_object hab
          refine (same_object_iff ha hc).mpr fun name => ?_
          refine rel_comp (rel_get?_of_same ha hab name) (rel_get?_of_same hb hbc name)
            fun u v w hu hv hw huv hvw => ?_
          have hum := Members.mem_of_get? hu
          exact ih _ (hheight ▸ height_lt_of_mem_members hum) ((distinct_object.mp ha).2 _ hum)
            ((distinct_object.mp hb).2 _ (Members.mem_of_get? hv))
            ((distinct_object.mp hc).2 _ (Members.mem_of_get? hw)) huv hvw (hagree.step hu hw) rfl

/-- Between two different integers stands a binary64 number, and both are large. -/
theorem float_between (ha : a.Distinct) (hb : b.Distinct) (hab : a.same b = true)
    (hbc : b.same c = true) {tokens : List String} {m n : Int} {word : IsWord m}
    {word' : IsWord n} (hm : Pointer.walk tokens a = some (.number (.integer m word)))
    (hn : Pointer.walk tokens c = some (.number (.integer n word'))) (hne : m ≠ n) :
    (Number.integer m word).IsLarge ∧ (Number.integer n word').IsLarge ∧
      ∃ x, Pointer.walk tokens b = some (.number (.float x)) := by
  have hsame := walk_same ha hab tokens
  have hsame' := walk_same hb hbc tokens
  rw [hm] at hsame
  rw [hn] at hsame'
  cases hu : Pointer.walk tokens b with
  | none => rw [hu] at hsame; exact nomatch hsame
  | some u =>
      rw [hu] at hsame hsame'
      cases hsame with
      | some hmu =>
          cases hsame' with
          | some hun =>
              obtain ⟨q, rfl, hqn⟩ := same_number hun
              rw [same] at hmu
              obtain ⟨x, rfl, hmlarge, hnlarge⟩ := Number.float_between hmu hqn hne
              exact ⟨hmlarge, hnlarge, x, rfl⟩

/-! ## Duplicates -/

theorem hasDuplicate_eq_false : hasDuplicate as = false ↔
    as.Pairwise fun a b => a.same b = false := by
  induction as with
  | nil => exact iff_of_true rfl .nil
  | cons a rest ih =>
      rw [hasDuplicate, Bool.or_eq_false_iff, ih, List.pairwise_cons, List.any_eq_false]
      simp only [Bool.not_eq_true]

/-- There are no duplicates if all elements differ, whichever comes first. -/
theorem hasDuplicate_eq_false' (hd : ∀ a ∈ as, a.Distinct) : hasDuplicate as = false ↔
    as.Pairwise fun a b => a.same b = false ∧ b.same a = false := by
  rw [hasDuplicate_eq_false]
  refine List.Pairwise.iff_of_mem fun ha hb => ?_
  rw [same_comm (hd _ hb) (hd _ ha), and_self_iff]

/-- **The order of the elements makes no difference.** -/
theorem hasDuplicate_perm (h : as.Perm bs) (hd : ∀ a ∈ as, a.Distinct) :
    hasDuplicate as = hasDuplicate bs := by
  have hd' : ∀ b ∈ bs, b.Distinct := fun b hb => hd b (h.mem_iff.mpr hb)
  have hiff : hasDuplicate as = false ↔ hasDuplicate bs = false := by
    rw [hasDuplicate_eq_false' hd, hasDuplicate_eq_false' hd']
    exact h.pairwise_iff And.symm
  rw [Bool.eq_iff_iff, ← not_iff_not, Bool.not_eq_true, Bool.not_eq_true]
  exact hiff

end Value

/-! ## Documents -/

namespace Validator

/-- A schema with `const` only. -/
def constOf (v : Value) : Value := .object [("const", v)]

/-- A schema with `enum` only. -/
def enumOf (values : List Value) : Value := .object [("enum", .array values)]

/-- A schema with `uniqueItems` only. -/
def uniqueItems : Value := .object [("uniqueItems", .bool true)]

theorem ofDocuments_constOf (c : Value) (config : Config) :
    ofDocuments [constOf c] config = .ok (single { const := some c } config) :=
  ofDocuments_single rfl rfl rfl config

theorem ofDocuments_enumOf (values : List Value) (config : Config) :
    ofDocuments [enumOf values] config = .ok (single { enum := some values } config) :=
  ofDocuments_single rfl rfl rfl config

theorem ofDocuments_uniqueItems (config : Config) :
    ofDocuments [uniqueItems] config =
      .ok (single { arrays := { uniqueItems := true } } config) :=
  ofDocuments_single rfl rfl rfl config

theorem validate_constOf (c v : Value) (config : Config) :
    (single { const := some c } config).validate v =
      .ok (if !c.same v then [⟨⟨[]⟩, ⟨["const"]⟩, ""⟩] else []) := by
  have htasks : ({ const := some c } : Keywords).tasks v =
      [] ++ .check (!c.same v) ["const"] ::
        (["enum", "type"].map (fun keyword => .check false [keyword]) ++
          ({ const := some c } : Keywords).shapedTasks v) := rfl
  have hafter :=
    Eval.idle_append_shaped (k := { const := some c }) rfl rfl rfl rfl v ["enum", "type"]
  exact validate_single (List.forall_mem_nil _) hafter htasks config

theorem validate_enumOf (values : List Value) (v : Value) (config : Config) :
    (single { enum := some values } config).validate v =
      .ok (if !values.any fun c => c.same v then [⟨⟨[]⟩, ⟨["enum"]⟩, ""⟩] else []) := by
  have htasks : ({ enum := some values } : Keywords).tasks v =
      ["const"].map (fun keyword => .check false [keyword]) ++
        .check (!values.any fun c => c.same v) ["enum"] ::
          (["type"].map (fun keyword => .check false [keyword]) ++
            ({ enum := some values } : Keywords).shapedTasks v) := rfl
  have hafter := Eval.idle_append_shaped (k := { enum := some values }) rfl rfl rfl rfl v ["type"]
  exact validate_single (Eval.idle_checks _) hafter htasks config

theorem validate_uniqueItems (items : List Value) (config : Config) :
    (single { arrays := { uniqueItems := true } } config).validate (.array items) =
      .ok (if Value.hasDuplicate items then [⟨⟨[]⟩, ⟨["uniqueItems"]⟩, ""⟩] else []) := by
  have htasks : ({ arrays := { uniqueItems := true } } : Keywords).tasks (.array items) =
      ["const", "enum", "type", "maxItems", "minItems"].map
          (fun keyword => .check false [keyword]) ++
        .check (Value.hasDuplicate items) ["uniqueItems"] :: [] := rfl
  exact validate_single (Eval.idle_checks _) (List.forall_mem_nil _) htasks config

end Validator

open Value

/-- **Equality compares values, unless an integer has to be rounded.** Numbers with the same value
are equal in all forms. Equal numbers have the same value, unless one of them is a binary64 number
and the other one an integer that has to be rounded, which takes `2 ^ 53` at least. If `a` equals
`b` and `b` equals `c`, then `a` equals `c` just if there is no place where the integers of `a` and
`c` differ. At such a place `b` has a binary64 number, and both integers are large. -/
theorem same_compares_values (m n : Number) (a b c : Value) :
    (m.value = n.value → m.same n = true) ∧
    (m.same n = true →
      (m.value ≠ n.value ↔ m.IsRounded ∧ n.IsFloat ∨ m.IsFloat ∧ n.IsRounded)) ∧
    (m.IsRounded → m.IsLarge) ∧
    (a.Distinct → b.Distinct → c.Distinct → a.same b = true → b.same c = true →
      (a.same c = true ↔ IntegersAgree a c) ∧
      ∀ tokens i j (word : IsWord i) (word' : IsWord j),
        Pointer.walk tokens a = some (.number (.integer i word)) →
        Pointer.walk tokens c = some (.number (.integer j word')) → i ≠ j →
          (Number.integer i word).IsLarge ∧ (Number.integer j word').IsLarge ∧
            ∃ x, Pointer.walk tokens b = some (.number (.float x))) := by
  refine ⟨Number.same_of_value, Number.value_ne_iff_of_same, Number.IsRounded.isLarge, ?_⟩
  intro ha hb hc hab hbc
  refine ⟨⟨integersAgree_of_same ha, same_trans ha hb hc hab hbc⟩, ?_⟩
  intro tokens i j word word' hi hj hne
  exact float_between ha hb hab hbc hi hj hne

/-- Two small numbers, as integers and as binary64 numbers. -/
def asIntegers : Value :=
  .array [.number (.integer 5), .object [("x", .number (.integer 6)), ("y", .null)]]

def asFloats : Value :=
  .array [.number (.float { negative := false, rank := 0x4014000000000000 }),
    .object [("y", .null),
      ("x", .number (.float { negative := false, rank := 0x4018000000000000 }))]]

/-- `2 ^ 53` as a binary64 number and as an integer, and the integer after it. -/
def float53 : Number := .float { negative := false, rank := 0x4340000000000000 }

def even53 : Number := .integer 9007199254740992

def odd53 : Number := .integer 9007199254740993

/-- Small numbers make no trouble. `2 ^ 53` is not rounded, and the next number is. -/
theorem same_compares_values_forms :
    (asIntegers.Distinct ∧ asFloats.Distinct ∧ asIntegers.same asFloats = true ∧
      asFloats.same asIntegers = true ∧ asIntegers.same asIntegers = true) ∧
    (even53.value = float53.value ∧ even53.same float53 = true) ∧
    odd53.same float53 = true ∧ odd53.IsRounded ∧ odd53.IsLarge ∧
      odd53.value ≠ float53.value ∧ even53.IsLarge := by
  have hintegers : asIntegers.Distinct := by
    simp [asIntegers, Members.Distinct, Value.Distinct, Value.DistinctItems, Value.DistinctMembers]
  have hfloats : asFloats.Distinct := by
    simp [asFloats, Members.Distinct, Value.Distinct, Value.DistinctItems, Value.DistinctMembers]
  have hsame : asIntegers.same asFloats = true := by decide +kernel
  have hsame' : asFloats.same asIntegers = true := by decide +kernel
  obtain ⟨hequal, _, _, htransitive⟩ :=
    same_compares_values even53 float53 asIntegers asFloats asIntegers
  obtain ⟨hiff, _⟩ := htransitive hintegers hfloats hintegers hsame hsame'
  have hagree : IntegersAgree asIntegers asIntegers := by
    intro tokens m n _ _ hm hn
    rw [hm] at hn
    cases hn
    rfl
  have hvalue : even53.value = float53.value := by decide +kernel
  obtain ⟨_, hrounding, hlarge, hbetween⟩ :=
    same_compares_values odd53 float53 (.number odd53) (.number float53) (.number even53)
  have hodd : odd53.same float53 = true := by decide +kernel
  have hrounded : odd53.IsRounded := by unfold Number.IsRounded; decide +kernel
  obtain ⟨_, hlarges⟩ := hbetween trivial trivial trivial (by decide +kernel) (by decide +kernel)
  obtain ⟨_, heven, _⟩ := hlarges [] _ _ _ _ rfl rfl (by decide)
  exact ⟨⟨hintegers, hfloats, hsame, hsame', hiff.mpr hagree⟩, ⟨hvalue, hequal hvalue⟩, hodd,
    hrounded, hlarge hrounded, (hrounding hodd).mpr (.inl ⟨hrounded, trivial⟩), heven⟩

/-- The two integers equal the binary64 number. But they differ, and one of them has another value
than it. -/
theorem same_not_transitive :
    (Value.number odd53).same (.number float53) = true ∧
      (Value.number float53).same (.number even53) = true ∧
      (Value.number odd53).same (.number even53) = false ∧ odd53.value ≠ float53.value := by
  refine ⟨?_, ?_, ?_, ?_⟩ <;> decide +kernel

/-- **What equality is good for.** It is reflexive and symmetric, and does not see in which order
the members of objects stand on either side, at any depth, nor in which form small whole numbers are
written. So the order of elements makes no difference to `uniqueItems`, and a value passes its own
`const` and every `enum` that it is in. -/
theorem equality_laws :
    (∀ v : Value, v.Distinct → v.same v = true) ∧
    (∀ v w : Value, v.Distinct → w.Distinct → v.same w = w.same v) ∧
    (∀ v v' w w' : Value, v.Alike w → v'.Alike w' → v'.Distinct → v.same v' = w.same w') ∧
    (∀ (as bs : List Value) (config : Config), as.Perm bs → (∀ a ∈ as, a.Distinct) →
      hasDuplicate as = hasDuplicate bs ∧
      ∃ validator, Validator.ofDocuments [Validator.uniqueItems] config = .ok validator ∧
        (validator.validate (.array as) = .ok [] ↔ hasDuplicate as = false) ∧
        validator.validate (.array as) = validator.validate (.array bs)) ∧
    (∀ (v : Value) (config : Config), v.Distinct →
      ∃ validator, Validator.ofDocuments [Validator.constOf v] config = .ok validator ∧
        validator.validate v = .ok []) ∧
    ∀ (v : Value) (values : List Value) (config : Config), v.Distinct → v ∈ values →
      ∃ validator, Validator.ofDocuments [Validator.enumOf values] config = .ok validator ∧
        validator.validate v = .ok [] := by
  refine ⟨fun v => same_refl, fun v w => same_comm, fun v v' w w' => Alike.same_congr, ?_, ?_, ?_⟩
  · intro as bs config hperm hd
    have hsame := hasDuplicate_perm hperm hd
    refine ⟨hsame, _, Validator.ofDocuments_uniqueItems config, ?_, ?_⟩
    · rw [Validator.validate_uniqueItems]
      cases hasDuplicate as <;> decide
    · rw [Validator.validate_uniqueItems, Validator.validate_uniqueItems, hsame]
  · intro v config hd
    refine ⟨_, Validator.ofDocuments_constOf v config, ?_⟩
    rw [Validator.validate_constOf, same_refl hd]
    rfl
  · intro v values config hd hmem
    refine ⟨_, Validator.ofDocuments_enumOf values config, ?_⟩
    have hany : (values.any fun c => c.same v) = true :=
      List.any_eq_true.mpr ⟨v, hmem, same_refl hd⟩
    rw [Validator.validate_enumOf, hany]
    rfl

/-- An object, and the same one with its members the other way round. -/
def ordered : Value := .object [("x", .array [.null]), ("y", .number (.integer 5))]

def reversed : Value := .object [("y", .number (.integer 5)), ("x", .array [.null])]

theorem equality_laws_reversed :
    ordered.Distinct ∧ ordered.Alike reversed ∧ reversed.same ordered = true ∧
      [ordered, .null, reversed].Perm [.null, ordered, reversed] ∧
      hasDuplicate [ordered, .null, reversed] = hasDuplicate [.null, ordered, reversed] ∧
      ∃ validator, Validator.ofDocuments [Validator.enumOf [.null, ordered]] {} = .ok validator ∧
        validator.validate ordered = .ok [] := by
  have hd : ordered.Distinct := by
    simp [ordered, Members.Distinct, Value.Distinct, Value.DistinctItems, Value.DistinctMembers]
  have halike : ordered.Alike reversed := by
    refine .object (List.Perm.swap _ _ _) rfl fun p hp => ?_
    simp only [List.zip_cons_cons, List.zip_nil_right, List.mem_cons, List.not_mem_nil,
      or_false] at hp
    rcases hp with rfl | rfl <;> exact .refl _
  obtain ⟨hrefl, _, hcongr, hunique, _, henum⟩ := equality_laws
  have hperm : [ordered, .null, reversed].Perm [.null, ordered, reversed] := .swap _ _ _
  have hall : ∀ a ∈ [ordered, .null, reversed], a.Distinct :=
    List.forall_mem_cons.mpr ⟨hd, List.forall_mem_cons.mpr
      ⟨trivial, List.forall_mem_singleton.mpr (halike.distinct hd)⟩⟩
  have hreversed : reversed.same ordered = true :=
    (hcongr ordered ordered reversed ordered halike (.refl ordered) hd).symm.trans
      (hrefl ordered hd)
  exact ⟨hd, halike, hreversed, hperm, (hunique _ _ {} hperm hall).1,
    henum ordered [.null, ordered] {} hd (List.mem_cons_of_mem _ List.mem_cons_self)⟩

end JsonSchema
