import JsonSchema.Proofs.Direct.Reported
import JsonSchema.Proofs.Evaluation.SingleKeyword

/-!
# Multiples, and what comes close to them

`multipleOf` allows for some noise: the remainder of the division may be as great as the tolerance.
The remainder is what is left of the way from zero to the number after the last multiple on it. So a
number is accepted if there is a multiple close to it on its way from zero. A multiple that is close
but lies beyond the number does not count.

All values are exact. They are whole numbers of the units of binary64 numbers.
-/

namespace JsonSchema

open Compile Direct

/-! ## Multiples between zero and a number -/

namespace Eval

/-- A number lies between zero and `x`, or is one of them. -/
def OnTheWay (x y : Int) : Prop := min 0 x ≤ y ∧ y ≤ max 0 x

variable {x y d k : Int}

/-- The way from zero to `x` goes through `y`. -/
theorem OnTheWay.natAbs (h : OnTheWay x y) : x.natAbs = y.natAbs + (x - y).natAbs := by
  unfold OnTheWay at h
  omega

/-- The last multiple on the way is as far from the number as the remainder says. -/
theorem exists_multiple (x d : Int) :
    ∃ k : Int, OnTheWay x (k * d) ∧ (x - k * d).natAbs = (x.tmod d).natAbs := by
  have hsplit := Int.tdiv_mul_add_tmod x d
  -- the remainder is on the side of the number, and no greater
  have hsize : (x.tmod d).natAbs ≤ x.natAbs := by
    rw [Int.natAbs_tmod]
    exact Nat.mod_le _ _
  have hpos : 0 ≤ x → 0 ≤ x.tmod d := Int.tmod_nonneg d
  have hneg : 0 ≤ -x → 0 ≤ -x.tmod d := fun h => Int.neg_tmod x d ▸ Int.tmod_nonneg d h
  refine ⟨x.tdiv d, ?_, ?_⟩
  · unfold OnTheWay
    omega
  · omega

/-- No multiple on the way is closer. -/
theorem OnTheWay.le (h : OnTheWay x (k * d)) : (x.tmod d).natAbs ≤ (x - k * d).natAbs := by
  rw [Int.natAbs_tmod, h.natAbs, Int.natAbs_mul, Nat.mul_add_mod_self_right]
  exact Nat.mod_le _ _

/-- **The remainder is within a tolerance if a multiple on the way is.** -/
theorem lt_remainder_iff (e x d : Int) :
    e < (x.tmod d).natAbs ↔ ∀ k : Int, OnTheWay x (k * d) → e < (x - k * d).natAbs := by
  constructor
  · intro h k hk
    exact Int.lt_of_lt_of_le h (Int.ofNat_le.mpr hk.le)
  · intro h
    obtain ⟨k, hk, heq⟩ := exists_multiple x d
    rw [← heq]
    exact h k hk

/-- Short of a multiple by `r`, the remainder is what `r` leaves of the divisor. -/
theorem remainder_of_short {r : Int} (hr : 0 < r) (hrd : r ≤ d)
    (h : (x.natAbs : Int) + r = k * d) : ((x.tmod d).natAbs : Int) = d - r := by
  have hx : (x.natAbs : Int) = (d - r) + (k - 1) * d := by
    rw [Int.sub_mul]
    omega
  have hd : (d.natAbs : Int) = d := Int.natAbs_of_nonneg (by omega)
  rw [Int.natAbs_tmod, Int.natCast_emod, hd, hx, Int.add_mul_emod_self_right]
  exact Int.emod_eq_of_lt (by omega) (by omega)

theorem missesMultiple_iff {x d : Double} :
    missesMultiple x d = true ↔ ∀ k : Int, OnTheWay x.units (k * d.units) →
      multipleTolerance.units < (x.units - k * d.units).natAbs :=
  decide_eq_true_iff.trans (lt_remainder_iff _ _ _)

theorem missesMultiple_iff_of_short {x d : Double} {r : Int} (hr : 0 < r) (hrd : r ≤ d.units)
    (h : (x.units.natAbs : Int) + r = k * d.units) :
    missesMultiple x d = true ↔ multipleTolerance.units < d.units - r := by
  refine decide_eq_true_iff.trans ?_
  rw [remainder_of_short hr hrd h]

end Eval

/-! ## The keyword -/

theorem units_pos_of_asPositive {v : Value} {x : Double} (h : asPositive v = .ok x) :
    0 < x.units := by
  obtain ⟨y, _, hy⟩ := bind_eq_ok h
  split at hy
  · rename_i hpos
    cases hy
    exact hpos
  · exact nomatch hy

/-- A divisor of an accepted schema is greater than zero. -/
theorem divisor_pos {documents : List Value} {config : Config} {validator : Validator}
    (h : Validator.ofDocuments documents config = .ok validator) {i : Nat} {node : Node}
    {k : Keywords} {m : Double} (hn : validator.bundle.registry.get? i = some node)
    (hk : node.body = .keywords k) (hm : k.numbers.multipleOf = some m) : 0 < m.units := by
  obtain ⟨bundle, hbundle, hvalidator⟩ := bind_eq_ok h
  cases hvalidator
  obtain ⟨here, v, _, hcarries⟩ := carries_of_ofDocuments (supports_true documents) hbundle hn
  rw [hk] at hcarries
  cases hcarries with
  | keywords hkeywords =>
      have hfacet := hkeywords.numbers.multipleOf
      rw [hm] at hfacet
      unfold Facet at hfacet
      generalize Members.get? _ "multipleOf" = o at hfacet
      cases hfacet with
      | some hread => exact units_pos_of_asPositive hread

/-- The divisor of an accepted schema is a number, and the facet is its binary64 value. -/
theorem divisor_eq {members : Members Value} {rules : NumberRules}
    (h : NumberRulesOf members rules) {w : Value} (hw : members.get? "multipleOf" = some w) :
    ∃ m, w = .number m ∧ 0 < m.toDouble.units ∧ rules.multipleOf = some m.toDouble := by
  obtain ⟨d, hread, hfacet⟩ := exists_of_present h.multipleOf hw
  have hpos := units_pos_of_asPositive hread
  obtain ⟨y, hy, hd⟩ := bind_eq_ok hread
  split at hd
  · cases hd
    cases w with
    | number m => cases hy; exact ⟨m, rfl, hpos, hfacet⟩
    | _ => exact nomatch hy
  · exact nomatch hd

/-- `multipleOf` checks numbers, and does nothing else. -/
theorem checks_multipleOf {k : Keywords} {d : Double} {n : Number}
    (h : k.numbers.multipleOf = some d) :
    k.Checks "multipleOf" (.number n) (Eval.missesMultiple n.toDouble d) where
  checked := by
    have htasks : .check (Eval.missesMultiple n.toDouble d) ["multipleOf"] ∈
        (k.numbers.tasks n : List (Task Nat)) := by
      unfold NumberRules.tasks
      dsimp only
      rw [h, Option.any_some]
      exact List.mem_cons_self
    exact List.mem_append_right _ (List.mem_append_right _ htasks)
  only demand hasks := by
    generalize hkeyword : "multipleOf" = word at hasks
    generalize hv : Value.number n = v at hasks
    cases hasks with
    | multipleOf ho => cases hv; cases ho.symm.trans h; rfl
    | _ => exact absurd hkeyword (by decide)

/-- `multipleOf` in the company of other keywords says the same. -/
theorem blames_multipleOf_iff {documents : List Value} {config : Config} {validator : Validator}
    {here : Target} {i : Nat} {members : Members Value}
    (h : validator.HasSchema documents config here i members) (huncapped : config.maxErrors = 0)
    {n : Number} {es : Report} (hes : validator.runAt here i (.number n) = .ok es) {w : Value}
    (hw : members.get? "multipleOf" = some w) :
    ∃ m, w = .number m ∧ 0 < m.toDouble.units ∧
      (es.Blames here "multipleOf" ↔ Eval.missesMultiple n.toDouble m.toDouble = true) := by
  obtain ⟨_, k, _, _, hkeywords⟩ := h.exists_keywords
  obtain ⟨m, rfl, hpos, _⟩ := divisor_eq hkeywords.numbers hw
  refine ⟨m, rfl, hpos, ?_⟩
  have hn : (Value.number n).Distinct := trivial
  refine h.blames_iff huncapped hw hn hes fun k index hkeywords => ?_
  obtain ⟨m', heq, _, hfacet⟩ := divisor_eq hkeywords.numbers hw
  cases heq
  exact checks_multipleOf hfacet

namespace Validator

/-- A schema with `multipleOf` only. -/
def multipleOf (m : Number) : Value := .object [("multipleOf", .number m)]

/-- What is reported there. -/
def notMultiple : Violation := ⟨⟨[]⟩, ⟨["multipleOf"]⟩, ""⟩

theorem ofDocuments_multipleOf {m : Number} (hm : 0 < m.toDouble.units) (config : Config) :
    ofDocuments [multipleOf m] config =
      .ok (single { numbers := { multipleOf := some m.toDouble } } config) := by
  refine ofDocuments_single rfl ?_ rfl config
  have hpositive : asPositive (.number m) = .ok m.toDouble := if_pos hm
  have hread : optional [("multipleOf", .number m)] "multipleOf" asPositive rootPlace =
      .ok (some m.toDouble) := by
    exact Direct.optional_eq_ok.mpr (Option.Rel.some hpositive)
  have hnumbers : Compile.numberRules rootPlace [("multipleOf", .number m)] =
      .ok { multipleOf := some m.toDouble } := by
    unfold Compile.numberRules
    rw [hread]
    rfl
  unfold keywords
  rw [hnumbers]
  rfl

theorem validate_multipleOf (m : Double) (n : Number) (config : Config) :
    (single { numbers := { multipleOf := some m } } config).validate (.number n) =
      .ok (if Eval.missesMultiple n.toDouble m then [notMultiple] else []) := by
  have htasks : ({ numbers := { multipleOf := some m } } : Keywords).tasks (.number n) =
      ["const", "enum", "type"].map (fun keyword => .check false [keyword]) ++
        .check ((some m).any fun m => Eval.missesMultiple n.toDouble m) ["multipleOf"] ::
          ["maximum", "minimum", "exclusiveMaximum", "exclusiveMinimum"].map
            (fun keyword => .check false [keyword]) := rfl
  have hanswer := validate_single (Eval.idle_checks _) (Eval.idle_checks _) htasks config
  rw [Option.any_some] at hanswer
  exact hanswer

end Validator

/-- **`multipleOf` looks back from a number, and not ahead.** Divisors that are accepted are greater
than zero. A number is reported if all multiples on its way from zero, itself included, are farther
away than the tolerance. So just beyond a multiple a number is accepted. Short of a multiple it is
reported, however close it comes, unless the multiple before it is within the tolerance. This is so
in whatever schema `multipleOf` stands. -/
theorem multipleOf_reported_iff :
    (∀ documents config validator, Validator.ofDocuments documents config = .ok validator →
      ∀ i node k m, validator.bundle.registry.get? i = some node → node.body = .keywords k →
        k.numbers.multipleOf = some m → 0 < m.units) ∧
    (∀ (m n : Number) (config : Config), 0 < m.toDouble.units →
      ∃ validator, Validator.ofDocuments [Validator.multipleOf m] config = .ok validator ∧
        let answer := validator.validate (.number n)
        let x := n.toDouble.units
        let d := m.toDouble.units
        let tolerance := Eval.multipleTolerance.units
        (answer = .ok [] ∨ answer = .ok [Validator.notMultiple]) ∧
        (answer = .ok [Validator.notMultiple] ↔
          ∀ k : Int, Eval.OnTheWay x (k * d) → tolerance < (x - k * d).natAbs) ∧
        ∀ k r : Int, 0 < r → r ≤ d → x.natAbs + r = k * d →
          (answer = .ok [Validator.notMultiple] ↔ tolerance < d - r)) ∧
    ∀ documents config validator here i members,
      Validator.HasSchema documents config validator here i members → config.maxErrors = 0 →
      ∀ (n : Number) es, validator.runAt here i (.number n) = .ok es →
        ∀ w, members.get? "multipleOf" = some w →
          ∃ m : Number, w = .number m ∧ 0 < m.toDouble.units ∧
            let x := n.toDouble.units
            let d := m.toDouble.units
            let tolerance := Eval.multipleTolerance.units
            (es.Blames here "multipleOf" ↔
              ∀ k : Int, Eval.OnTheWay x (k * d) → tolerance < (x - k * d).natAbs) ∧
            ∀ k r : Int, 0 < r → r ≤ d → x.natAbs + r = k * d →
              (es.Blames here "multipleOf" ↔ tolerance < d - r) := by
  refine ⟨fun documents config validator h i node k m hn hk hm => divisor_pos h hn hk hm,
    fun m n config hm => ?_, fun documents config validator here i members h huncapped n es hes w
      hw => ?_⟩
  · refine ⟨_, Validator.ofDocuments_multipleOf hm config, ?_⟩
    have hreported : ∀ violated : Bool,
        (Except.ok (if violated then [Validator.notMultiple] else []) : Except EvalError Report) =
          .ok [Validator.notMultiple] ↔ violated = true := by
      decide
    dsimp only
    rw [Validator.validate_multipleOf, hreported]
    refine ⟨?_, Eval.missesMultiple_iff,
      fun k r hr hrd hk => Eval.missesMultiple_iff_of_short hr hrd hk⟩
    cases Eval.missesMultiple n.toDouble m.toDouble with
    | true => exact .inr rfl
    | false => exact .inl rfl
  · obtain ⟨m, rfl, hpos, hblames⟩ := blames_multipleOf_iff h huncapped hes hw
    exact ⟨m, rfl, hpos, hblames.trans Eval.missesMultiple_iff,
      fun k r hr hrd hk => hblames.trans (Eval.missesMultiple_iff_of_short hr hrd hk)⟩

/-- A schema for the multiples of a number from a least one on. -/
def multiplesFrom (least divisor : Number) : Value :=
  .object [("minimum", .number least), ("multipleOf", .number divisor)]

theorem multipleOf_reported_iff_seven :
    Validator.ofDocuments [Validator.multipleOf (.integer 2)] {} = .ok
        (.single { numbers := { multipleOf := some (Number.integer 2).toDouble } } {}) ∧
      0 < (Number.integer 2).toDouble.units ∧
      (∃ validator, Validator.ofDocuments [Validator.multipleOf (.integer 2)] {} = .ok validator ∧
        validator.validate (.number (.integer 7)) = .ok [Validator.notMultiple]) ∧
      ∃ (validator : Validator) (es : Report),
        validator.HasSchema [multiplesFrom (.integer 10) (.integer 2)] {} Validator.rootPlace 0
          [("minimum", .number (.integer 10)), ("multipleOf", .number (.integer 2))] ∧
        validator.runAt Validator.rootPlace 0 (.number (.integer 7)) = .ok es ∧
        es.Blames Validator.rootPlace "minimum" ∧ es.Blames Validator.rootPlace "multipleOf" := by
  have hpos : 0 < (Number.integer 2).toDouble.units := by decide +kernel
  have hsingle := Validator.ofDocuments_multipleOf hpos {}
  obtain ⟨haccepted, hreported, hcompany⟩ := multipleOf_reported_iff
  obtain ⟨validator, h, _, _, hshort⟩ := hreported (.integer 2) (.integer 7) {} hpos
  have hanswer : (Validator.ofDocuments
      [multiplesFrom (.integer 10) (.integer 2)] {}).toOption.map (fun validator =>
        (validator.bundle.registry.lookup Validator.rootPlace.key,
          validator.runAt Validator.rootPlace 0 (.number (.integer 7)))) =
        some (some 0, .ok [Validator.notMultiple, ⟨⟨[]⟩, ⟨["minimum"]⟩, ""⟩]) := by
    decide +kernel
  obtain ⟨validator', hvalidator, hanswer⟩ := exists_of_toOption_map hanswer
  obtain ⟨hfound, hes⟩ := Prod.mk.inj hanswer
  have hd : ∀ document ∈ [multiplesFrom (.integer 10) (.integer 2)], document.Distinct := by
    simp [multiplesFrom, Members.Distinct, Value.Distinct, Value.DistinctMembers]
  have hschema : validator'.HasSchema [multiplesFrom (.integer 10) (.integer 2)] {}
      Validator.rootPlace 0 _ := ⟨hvalidator, hd, hfound, rfl⟩
  obtain ⟨m, hm, _, _, hblames⟩ := hcompany _ _ _ _ _ _ hschema rfl _ _ hes _ rfl
  cases hm
  refine ⟨hsingle, haccepted _ _ _ hsingle 0 _ _ _ rfl rfl rfl, ⟨validator, h, ?_⟩, validator', _,
    hschema, hes, List.mem_cons_of_mem _ List.mem_cons_self, ?_⟩
  -- one short of eight
  · refine (hshort 4 Double.unitsPerOne ?_ ?_ ?_).mpr ?_ <;> decide +kernel
  · refine (hblames 4 Double.unitsPerOne ?_ ?_ ?_).mpr ?_ <;> decide +kernel

/-- The binary64 numbers nearest to `0.1` and `0.3`. -/
def oneTenth : Double := { negative := false, rank := 0x3FB999999999999A }

def threeTenths : Double := { negative := false, rank := 0x3FD3333333333333 }

/-- `0.3` is reported for `0.1`, although three times `0.1` is well within the tolerance. -/
theorem short_of_multiple_reported : 0 < oneTenth.units ∧
    (threeTenths.units - 3 * oneTenth.units).natAbs ≤ Eval.multipleTolerance.units ∧
    ∃ validator, Validator.ofDocuments [Validator.multipleOf (.float oneTenth)] {} = .ok validator ∧
      validator.validate (.number (.float threeTenths)) = .ok [Validator.notMultiple] := by
  have hanswer : (Validator.ofDocuments [Validator.multipleOf (.float oneTenth)] {}).toOption.map
      (fun validator => validator.validate (.number (.float threeTenths))) =
        some (.ok [Validator.notMultiple]) := by
    decide +kernel
  exact ⟨by decide +kernel, by decide +kernel, exists_of_toOption_map hanswer⟩

end JsonSchema
