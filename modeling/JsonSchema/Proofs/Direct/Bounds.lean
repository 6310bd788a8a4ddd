import JsonSchema.Proofs.Direct.Equality
import JsonSchema.Proofs.Direct.Reported
import JsonSchema.Proofs.Evaluation.SingleKeyword
import JsonSchema.Proofs.Number.Order

/-!
# Bounds and equality

The keywords for bounds compare binary64 values, while equality compares two integers exactly. The
two agree except on integers that are rounded to the same number: these pass as equal to a bound,
although they are not. Everywhere else the bounds order numbers as their exact values are ordered.
-/

namespace JsonSchema

open Compile Direct

/-- The keywords that bound a number. -/
inductive Bound where
  | minimum
  | maximum
  | exclusiveMinimum
  | exclusiveMaximum
deriving DecidableEq, Repr

namespace Bound

def keyword : Bound → String
  | minimum => "minimum"
  | maximum => "maximum"
  | exclusiveMinimum => "exclusiveMinimum"
  | exclusiveMaximum => "exclusiveMaximum"

/-- The facet of the keyword. -/
def facet : Bound → NumberRules → Option Double
  | minimum, rules => rules.minimum
  | maximum, rules => rules.maximum
  | exclusiveMinimum, rules => rules.exclusiveMinimum
  | exclusiveMaximum, rules => rules.exclusiveMaximum

/-- The condition that the keyword checks. -/
def fails : Bound → Double → Double → Bool
  | minimum, x, m => x.units < m.units
  | maximum, x, m => m.units < x.units
  | exclusiveMinimum, x, m => x.units ≤ m.units
  | exclusiveMaximum, x, m => m.units ≤ x.units

/-- The number is beyond the bound, by its exact value. To meet the bound is to be beyond it if the
bound is exclusive, and else it is not. -/
def Exceeded : Bound → Number → Number → Prop
  | minimum, x, m => x.value < m.value ∧ ¬ x.Meets m
  | maximum, x, m => m.value < x.value ∧ ¬ x.Meets m
  | exclusiveMinimum, x, m => x.value < m.value ∨ x.Meets m
  | exclusiveMaximum, x, m => m.value < x.value ∨ x.Meets m

instance : (b : Bound) → (x m : Number) → Decidable (b.Exceeded x m)
  | minimum, _, _ => inferInstanceAs (Decidable (_ ∧ _))
  | maximum, _, _ => inferInstanceAs (Decidable (_ ∧ _))
  | exclusiveMinimum, _, _ => inferInstanceAs (Decidable (_ ∨ _))
  | exclusiveMaximum, _, _ => inferInstanceAs (Decidable (_ ∨ _))

variable {b : Bound} {k : Keywords} {x m : Number}

/-- **A bound fails where it is exceeded.** -/
theorem fails_iff : b.fails x.toDouble m.toDouble = true ↔ b.Exceeded x m := by
  cases b with
  | minimum => exact decide_eq_true_iff.trans Number.units_lt_iff
  | maximum =>
      rw [Exceeded, Number.meets_comm]
      exact decide_eq_true_iff.trans Number.units_lt_iff
  | exclusiveMinimum => exact decide_eq_true_iff.trans Number.units_le_iff
  | exclusiveMaximum =>
      rw [Exceeded, Number.meets_comm]
      exact decide_eq_true_iff.trans Number.units_le_iff

theorem facet_of_rules {members : Members Value} {rules : NumberRules}
    (h : NumberRulesOf members rules) :
    Facet members b.keyword (ReadAs asDouble) (b.facet rules) := by
  cases b with
  | minimum => exact h.minimum
  | maximum => exact h.maximum
  | exclusiveMinimum => exact h.exclusiveMinimum
  | exclusiveMaximum => exact h.exclusiveMaximum

/-- The bound of an accepted schema is a number, and the facet is its binary64 value. -/
theorem facet_eq {members : Members Value} {rules : NumberRules}
    (h : NumberRulesOf members rules) {w : Value} (hw : members.get? b.keyword = some w) :
    ∃ m, w = .number m ∧ b.facet rules = some m.toDouble := by
  obtain ⟨d, hread, hfacet⟩ := exists_of_present (facet_of_rules h) hw
  cases w with
  | number m =>
      cases hread
      exact ⟨m, rfl, hfacet⟩
  | _ => exact nomatch hread

/-- A bound checks numbers, and does nothing else. -/
theorem checks {d : Double} (h : b.facet k.numbers = some d) :
    k.Checks b.keyword (.number x) (b.fails x.toDouble d) where
  checked := by
    have htasks : .check (b.fails x.toDouble d) [b.keyword] ∈
        (k.numbers.tasks x : List (Task Nat)) := by
      unfold NumberRules.tasks
      cases b <;>
      · dsimp only [facet] at h
        rw [h]
        simp only [Option.any_some, List.mem_cons, fails, keyword, true_or, or_true]
    exact List.mem_append_right _ (List.mem_append_right _ htasks)
  only demand hasks := by
    generalize hkeyword : b.keyword = word at hasks
    generalize hv : Value.number x = v at hasks
    cases b with
    | minimum =>
        cases hasks with
        | minimum ho => cases hv; cases ho.symm.trans h; exact holds_le _ _
        | _ => exact absurd hkeyword (by decide)
    | maximum =>
        cases hasks with
        | maximum ho => cases hv; cases ho.symm.trans h; exact holds_le _ _
        | _ => exact absurd hkeyword (by decide)
    | exclusiveMinimum =>
        cases hasks with
        | exclusiveMinimum ho => cases hv; cases ho.symm.trans h; exact holds_lt _ _
        | _ => exact absurd hkeyword (by decide)
    | exclusiveMaximum =>
        cases hasks with
        | exclusiveMaximum ho => cases hv; cases ho.symm.trans h; exact holds_lt _ _
        | _ => exact absurd hkeyword (by decide)

/-! ## Documents of bounds -/

/-- A schema with some bounds at the same number. -/
def document (bounds : List Bound) (m : Number) : Value :=
  .object (bounds.map fun b => (b.keyword, .number m))

/-- What is reported of a number that is beyond. -/
def violation (b : Bound) : Violation := ⟨⟨[]⟩, ⟨[b.keyword]⟩, ""⟩

/-- The rules of a single bound. -/
def rules : Bound → Double → NumberRules
  | minimum, d => { minimum := some d }
  | maximum, d => { maximum := some d }
  | exclusiveMinimum, d => { exclusiveMinimum := some d }
  | exclusiveMaximum, d => { exclusiveMaximum := some d }

theorem ofDocuments_bound (b : Bound) (m : Number) (config : Config) :
    Validator.ofDocuments [document [b] m] config =
      .ok (.single { numbers := b.rules m.toDouble } config) := by
  refine Validator.ofDocuments_single ?_ ?_ rfl config
  · cases b <;> rfl
  · cases b <;> rfl

theorem ofDocuments_range (m : Number) (config : Config) :
    Validator.ofDocuments [document [minimum, maximum] m] config =
      .ok (.single { numbers := { minimum := some m.toDouble, maximum := some m.toDouble } }
        config) :=
  Validator.ofDocuments_single rfl rfl rfl config

theorem validate_bound (b : Bound) (d : Double) (x : Number) (config : Config) :
    (Validator.single { numbers := b.rules d } config).validate (.number x) =
      .ok (if b.fails x.toDouble d then [b.violation] else []) := by
  -- in the order of the tasks, the bound stands between keywords that are absent
  cases b with
  | maximum =>
      exact Validator.validate_amid ["const", "enum", "type", "multipleOf"]
        ["minimum", "exclusiveMaximum", "exclusiveMinimum"] rfl config
  | minimum =>
      exact Validator.validate_amid ["const", "enum", "type", "multipleOf", "maximum"]
        ["exclusiveMaximum", "exclusiveMinimum"] rfl config
  | exclusiveMaximum =>
      exact Validator.validate_amid ["const", "enum", "type", "multipleOf", "maximum", "minimum"]
        ["exclusiveMinimum"] rfl config
  | exclusiveMinimum =>
      exact Validator.validate_amid ["const", "enum", "type", "multipleOf", "maximum", "minimum",
        "exclusiveMaximum"] [] rfl config

/-- A number is not beyond both ends of a range. -/
theorem fails_maximum_of_minimum {x d : Double} (h : minimum.fails x d = true) :
    maximum.fails x d = false := by
  have hlt : x.units < d.units := of_decide_eq_true h
  exact decide_eq_false (Int.not_lt.mpr (Int.le_of_lt hlt))

theorem validate_range (d : Double) (x : Number) (config : Config) :
    (Validator.single { numbers := { minimum := some d, maximum := some d } } config).validate
      (.number x) = .ok (if minimum.fails x.toDouble d then [minimum.violation]
        else if maximum.fails x.toDouble d then [maximum.violation] else []) := by
  have htasks : ({ numbers := { minimum := some d, maximum := some d } } : Keywords).tasks
      (.number x) =
        ["const", "enum", "type", "multipleOf"].map (fun keyword => .check false [keyword]) ++
          .check (maximum.fails x.toDouble d) ["maximum"] ::
            .check (minimum.fails x.toDouble d) ["minimum"] ::
              ["exclusiveMaximum", "exclusiveMinimum"].map
                (fun keyword => .check false [keyword]) := rfl
  cases hmin : minimum.fails x.toDouble d with
  | true =>
      rw [hmin, fails_maximum_of_minimum hmin] at htasks
      exact Validator.validate_amid ["const", "enum", "type", "multipleOf", "maximum"]
        ["exclusiveMaximum", "exclusiveMinimum"] htasks config
  | false =>
      rw [hmin] at htasks
      exact Validator.validate_amid ["const", "enum", "type", "multipleOf"]
        ["minimum", "exclusiveMaximum", "exclusiveMinimum"] htasks config

/-- In a range of one number there is what meets that number. -/
theorem not_exceeded_iff :
    ¬ minimum.Exceeded x m ∧ ¬ maximum.Exceeded x m ↔ x.Meets m := by
  unfold Exceeded
  by_cases hmeets : x.Meets m
  · simp [hmeets]
  · have hne : x.value ≠ m.value := fun heq => hmeets (.inl (Number.same_of_value heq))
    simp only [hmeets, not_false_eq_true, and_true, iff_false]
    omega

/-- **A number is below, meets, or is above**, and only one of these. -/
theorem trichotomy (x m : Number) :
    (minimum.Exceeded x m ∧ ¬ x.Meets m ∧ ¬ maximum.Exceeded x m) ∨
      (¬ minimum.Exceeded x m ∧ x.Meets m ∧ ¬ maximum.Exceeded x m) ∨
      (¬ minimum.Exceeded x m ∧ ¬ x.Meets m ∧ maximum.Exceeded x m) := by
  have hrange := not_exceeded_iff (x := x) (m := m)
  by_cases hmin : minimum.Exceeded x m
  · have hmax : ¬ maximum.Exceeded x m := fun hmax => Int.lt_asymm hmin.1 hmax.1
    exact .inl ⟨hmin, hmin.2, hmax⟩
  · by_cases hmax : maximum.Exceeded x m
    · exact .inr (.inr ⟨hmin, hmax.2, hmax⟩)
    · exact .inr (.inl ⟨hmin, hrange.mp ⟨hmin, hmax⟩, hmax⟩)

/-- An exclusive bound is exceeded where the other one is, and where it is met. -/
theorem exclusive_iff :
    (exclusiveMinimum.Exceeded x m ↔ minimum.Exceeded x m ∨ x.Meets m) ∧
      (exclusiveMaximum.Exceeded x m ↔ maximum.Exceeded x m ∨ x.Meets m) := by
  unfold Exceeded
  by_cases hmeets : x.Meets m <;> simp [hmeets]

end Bound

/-! ## What is reported -/

namespace Validator

/-- The documents are accepted, and this is the report on the value. -/
def Reports (documents : List Value) (config : Config) (v : Value) (report : Report) : Prop :=
  ∃ validator, ofDocuments documents config = .ok validator ∧ validator.validate v = .ok report

theorem reports_iff {documents : List Value} {config : Config} {validator : Validator} {v : Value}
    {report : Report} (h : ofDocuments documents config = .ok validator)
    (hv : validator.validate v = .ok report) (report' : Report) :
    Reports documents config v report' ↔ report = report' := by
  constructor
  · rintro ⟨validator', h', hv'⟩
    cases h.symm.trans h'
    exact Except.ok.inj (hv.symm.trans hv')
  · rintro rfl
    exact ⟨validator, h, hv⟩

end Validator

namespace Bound

variable {x m : Number} {config : Config}

theorem reports_violation_iff {b : Bound} :
    Validator.Reports [document [b] m] config (.number x) [b.violation] ↔ b.Exceeded x m := by
  rw [Validator.reports_iff (ofDocuments_bound b m config) (validate_bound b _ x config),
    ← fails_iff]
  cases b.fails x.toDouble m.toDouble <;> simp

theorem reports_nil_iff {b : Bound} :
    Validator.Reports [document [b] m] config (.number x) [] ↔ ¬ b.Exceeded x m := by
  rw [Validator.reports_iff (ofDocuments_bound b m config) (validate_bound b _ x config),
    ← fails_iff]
  cases b.fails x.toDouble m.toDouble <;> simp

theorem range_reports_nil_iff :
    Validator.Reports [document [minimum, maximum] m] config (.number x) [] ↔ x.Meets m := by
  rw [Validator.reports_iff (ofDocuments_range m config) (validate_range _ x config),
    ← not_exceeded_iff, ← fails_iff, ← fails_iff]
  cases minimum.fails x.toDouble m.toDouble <;> cases maximum.fails x.toDouble m.toDouble <;> simp

/-- A bound in the company of other keywords says the same. -/
theorem blames_iff {documents : List Value} {validator : Validator} {here : Target} {i : Nat}
    {members : Members Value} (h : validator.HasSchema documents config here i members)
    (huncapped : config.maxErrors = 0) {es : Report}
    (hes : validator.runAt here i (.number x) = .ok es) {b : Bound} {w : Value}
    (hw : members.get? b.keyword = some w) :
    ∃ m, w = .number m ∧ (es.Blames here b.keyword ↔ b.Exceeded x m) := by
  obtain ⟨_, k, _, _, hkeywords⟩ := h.exists_keywords
  obtain ⟨m, rfl, _⟩ := facet_eq hkeywords.numbers hw
  refine ⟨m, rfl, ?_⟩
  have hx : (Value.number x).Distinct := trivial
  rw [← fails_iff]
  refine h.blames_iff huncapped hw hx hes fun k index hkeywords => ?_
  obtain ⟨m', heq, hfacet⟩ := facet_eq hkeywords.numbers hw
  cases heq
  exact checks hfacet

end Bound

/-- **Bounds agree with equality up to rounding.** A number passes the range from `m` to `m` if it
meets `m`, that is, if it equals `m` or is another integer that is rounded to the same binary64
number; then both are large. Exactly one of three is the case: `minimum` is reported, the numbers
meet, or `maximum` is reported. An exclusive bound is reported as well where the numbers meet. This
is so in whatever schema the bounds stand. -/
theorem bounds_agree_with_equality :
    (∀ (x m : Number) (config : Config),
      let reported := fun b : Bound =>
        Validator.Reports [Bound.document [b] m] config (.number x) [b.violation]
      (∀ b : Bound, (reported b ↔ b.Exceeded x m) ∧
        (Validator.Reports [Bound.document [b] m] config (.number x) [] ↔ ¬ b.Exceeded x m)) ∧
      (Validator.Reports [Bound.document [.minimum, .maximum] m] config (.number x) [] ↔
        x.Meets m) ∧
      ((reported .minimum ∧ ¬ x.Meets m ∧ ¬ reported .maximum) ∨
        (¬ reported .minimum ∧ x.Meets m ∧ ¬ reported .maximum) ∨
        (¬ reported .minimum ∧ ¬ x.Meets m ∧ reported .maximum)) ∧
      (reported .exclusiveMinimum ↔ reported .minimum ∨ x.Meets m) ∧
      (reported .exclusiveMaximum ↔ reported .maximum ∨ x.Meets m)) ∧
    (∀ x m : Number, x.Merged m → x.IsLarge ∧ m.IsLarge ∧ x.same m = false) ∧
    ∀ documents config validator here i members,
      Validator.HasSchema documents config validator here i members → config.maxErrors = 0 →
      ∀ x es, validator.runAt here i (.number x) = .ok es →
        ∀ (b : Bound) w, members.get? b.keyword = some w →
          ∃ m, w = .number m ∧ (es.Blames here b.keyword ↔ b.Exceeded x m) := by
  refine ⟨fun x m config => ?_, fun x m h => h.isLarge,
    fun documents config validator here i members h huncapped x es hes b w hw =>
      Bound.blames_iff h huncapped hes hw⟩
  refine ⟨fun b => ⟨Bound.reports_violation_iff, Bound.reports_nil_iff⟩,
    Bound.range_reports_nil_iff, ?_, ?_, ?_⟩
  · simp only [Bound.reports_violation_iff]
    exact Bound.trichotomy x m
  · simp only [Bound.reports_violation_iff]
    exact Bound.exclusive_iff.1
  · simp only [Bound.reports_violation_iff]
    exact Bound.exclusive_iff.2

/-- A range in the company of a type, and a number that is too small for it. -/
def rangeOfIntegers : Value :=
  .object [("type", .string "integer"), ("minimum", .number (.integer 21)),
    ("exclusiveMaximum", .number float53)]

theorem bounds_agree_with_equality_integers :
    odd53.Merged even53 ∧ odd53.same even53 = false ∧
    ∃ (validator : Validator) (es : Report),
      validator.HasSchema [rangeOfIntegers] {} Validator.rootPlace 0
        [("type", .string "integer"), ("minimum", .number (.integer 21)),
          ("exclusiveMaximum", .number float53)] ∧
      validator.runAt Validator.rootPlace 0 (.number (.integer 20)) = .ok es ∧
      es.Blames Validator.rootPlace "minimum" ∧
      ¬ es.Blames Validator.rootPlace "exclusiveMaximum" := by
  have hmerged : odd53.Merged even53 := ⟨by decide, by decide +kernel⟩
  obtain ⟨_, hlarge, hcompany⟩ := bounds_agree_with_equality
  have hanswer : (Validator.ofDocuments [rangeOfIntegers] {}).toOption.map (fun validator =>
      (validator.bundle.registry.lookup Validator.rootPlace.key,
        validator.runAt Validator.rootPlace 0 (.number (.integer 20)))) =
        some (some 0, .ok [Bound.minimum.violation]) := by
    decide +kernel
  obtain ⟨validator, hvalidator, hanswer⟩ := exists_of_toOption_map hanswer
  obtain ⟨hfound, hes⟩ := Prod.mk.inj hanswer
  have hd : ∀ document ∈ [rangeOfIntegers], document.Distinct := by
    simp [rangeOfIntegers, Members.Distinct, Value.Distinct, Value.DistinctMembers]
  have hschema : validator.HasSchema [rangeOfIntegers] {} Validator.rootPlace 0 _ :=
    ⟨hvalidator, hd, hfound, rfl⟩
  obtain ⟨_, hmin, hminimum⟩ :=
    hcompany _ _ _ _ _ _ hschema rfl _ _ hes .minimum _ rfl
  obtain ⟨_, hmax, hmaximum⟩ :=
    hcompany _ _ _ _ _ _ hschema rfl _ _ hes .exclusiveMaximum _ rfl
  cases hmin
  cases hmax
  exact ⟨hmerged, (hlarge _ _ hmerged).2.2, validator, _, hschema, hes,
    hminimum.mpr (by decide +kernel), mt hmaximum.mp (by decide +kernel)⟩

/-- `2 ^ 53 + 1` is not beyond a bound at `2 ^ 53`, though they differ. -/
theorem neighbour_within_bounds :
    Validator.Reports [Bound.document [.minimum, .maximum] even53] {} (.number odd53) [] ∧
      Validator.Reports [Bound.document [.minimum] even53] {} (.number odd53) [] ∧
      Validator.Reports [Bound.document [.maximum] even53] {} (.number odd53) [] ∧
      Validator.Reports [Bound.document [.exclusiveMinimum] even53] {} (.number odd53)
        [Bound.exclusiveMinimum.violation] ∧
      (Value.number odd53).same (.number even53) = false := by
  refine ⟨Bound.range_reports_nil_iff.mpr ?_, Bound.reports_nil_iff.mpr ?_,
    Bound.reports_nil_iff.mpr ?_, Bound.reports_violation_iff.mpr ?_, ?_⟩ <;> decide +kernel

end JsonSchema
