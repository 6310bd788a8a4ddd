import JsonSchema.Evaluation.Evaluate
import JsonSchema.Proofs.Basic

/-!
# What schemas mean

The meaning of a schema is given here without any evaluation. Every keyword that is present makes a
demand of the instance, and a demand is built from conditions and from the verdicts of other
schemas by negation, conjunction and the like. Places, caps, frames and the order of keywords have
no part in it.

A `Verdict` is derived from the demands alone. It says that a demand is met or that it is not. If
schemas refer to each other in a circle, there may be no verdict at all; but a conjunction fails as
soon as one part of it fails, whatever the others do, and there are never two verdicts.
-/

namespace JsonSchema

/-- What a keyword asks of an instance. -/
inductive Demand where
  /-- A condition that holds or not. -/
  | holds (b : Bool)
  /-- A value satisfies the schema with an index. -/
  | schema (index : Nat) (v : Value)
  /-- A value satisfies the schema that a reference leads to, if it is linked. -/
  | linked (index : Option Nat) (v : Value)
  /-- The demand is not met. -/
  | negation (d : Demand)
  /-- One of two demands is met, and a condition decides which. -/
  | branch (condition onPass onFail : Demand)
  /-- All demands are met. -/
  | all (ds : List Demand)
  /-- Some demand is met. -/
  | some (ds : List Demand)
  /-- Exactly one demand is met. -/
  | one (ds : List Demand)

/-- What an optional keyword asks. If it is absent, it asks nothing. -/
def demandOf {α : Type} (o : Option α) (demand : α → Demand) : List Demand := o.toList.map demand

namespace NumberRules

/-- The demands of the keywords that apply to numbers. -/
def demands (rules : NumberRules) (n : Number) : List Demand :=
  let x := n.toDouble
  demandOf rules.multipleOf (fun m => .holds (!Eval.missesMultiple x m)) ++
    demandOf rules.maximum (fun m => .holds (x.units ≤ m.units)) ++
    demandOf rules.minimum (fun m => .holds (m.units ≤ x.units)) ++
    demandOf rules.exclusiveMaximum (fun m => .holds (x.units < m.units)) ++
    demandOf rules.exclusiveMinimum (fun m => .holds (m.units < x.units))

end NumberRules

namespace StringRules

/-- The demands of the keywords that apply to strings. -/
def demands (rules : StringRules) (s : String) : List Demand :=
  demandOf rules.maxLength (fun n => .holds (s.length ≤ n)) ++
    demandOf rules.minLength (fun n => .holds (n ≤ s.length)) ++
    demandOf rules.pattern (fun p => .holds (p.foundIn s))

end StringRules

namespace Combinators

/-- The demands of `not` and of `if`, `then` and `else`. A branch that is absent asks nothing. -/
def trialDemands (k : Combinators) (v : Value) : List Demand :=
  demandOf k.negated (fun i => .negation (.schema i v)) ++
    demandOf k.condition (fun i =>
      .branch (.schema i v) (.all (demandOf k.onPass (.schema · v)))
        (.all (demandOf k.onFail (.schema · v))))

/-- The demands of `allOf`, `anyOf` and `oneOf`. -/
def listDemands (k : Combinators) (v : Value) : List Demand :=
  demandOf k.allOf (fun schemas => .all (schemas.map (.schema · v))) ++
    demandOf k.anyOf (fun schemas => .some (schemas.map (.schema · v))) ++
    demandOf k.oneOf (fun schemas => .one (schemas.map (.schema · v)))

end Combinators

namespace ArrayRules

/-- The demands of `items` and `additionalItems`. A list of schemas applies to the first elements,
and what is beyond it is left to `additionalItems`. -/
def elementDemands (rules : ArrayRules) (items : List Value) : List Demand :=
  match rules.items with
  | none => []
  | some (.all j) => [.all (items.map (.schema j ·))]
  | some (.positional schemas) =>
    .all ((schemas.zip items).map fun (j, v) => .schema j v) ::
      demandOf rules.additionalItems fun j =>
        .all ((items.drop schemas.length).map (.schema j ·))

/-- The demands of the keywords that apply to arrays. -/
def demands (rules : ArrayRules) (items : List Value) : List Demand :=
  rules.elementDemands items ++
    demandOf rules.maxItems (fun n => .holds (items.length ≤ n)) ++
    demandOf rules.minItems (fun n => .holds (n ≤ items.length)) ++
    (if rules.uniqueItems then [.holds (!Value.hasDuplicate items)] else []) ++
    demandOf rules.contains (fun j => .some (items.map (.schema j ·)))

end ArrayRules

namespace ObjectRules

/-- The schema of `properties` for a name. -/
def own? (rules : ObjectRules) (name : String) : Option Nat :=
  rules.properties.bind fun properties => properties.get? name

/-- The entries of `patternProperties` for a name. -/
def matching (rules : ObjectRules) (name : String) : List (Pattern × Nat) :=
  (rules.patternProperties.getD []).filter fun (pattern, _) => pattern.foundIn name

/-- Neither `properties` nor `patternProperties` has a schema for the name. -/
def isAdditional (rules : ObjectRules) (name : String) : Bool :=
  (rules.own? name).isNone && (rules.matching name).isEmpty

/-- The demands on the members: each is subject to the schemas for its name, and to
`additionalProperties` if there are none. -/
def memberDemands (rules : ObjectRules) (members : Members Value) : List Demand :=
  [.all (members.flatMap fun (name, v) => demandOf (rules.own? name) (.schema · v)),
    .all (members.flatMap fun (name, v) =>
      (rules.matching name).map fun (_, j) => .schema j v)] ++
    demandOf rules.additionalProperties fun j =>
      .all ((members.filter fun (name, _) => rules.isAdditional name).map fun (_, v) =>
        .schema j v)

/-- The object has all names of a list. -/
def hasAll (members : Members Value) (names : List String) : Demand :=
  .holds (names.all members.has)

/-- The demand of a dependency on an object that has the name. -/
def dependencyDemand (members : Members Value) : Dependency → Demand
  | .schema j => .schema j (.object members)
  | .required names => hasAll members names

/-- The demands of the keywords that apply to objects. -/
def demands (rules : ObjectRules) (members : Members Value) : List Demand :=
  demandOf rules.maxProperties (fun n => .holds (members.length ≤ n)) ++
    demandOf rules.minProperties (fun n => .holds (n ≤ members.length)) ++
    demandOf rules.required (hasAll members) ++
    rules.memberDemands members ++
    demandOf rules.dependencies (fun dependencies =>
      .all ((dependencies.filter fun (name, _) => members.has name).map fun (_, d) =>
        dependencyDemand members d)) ++
    demandOf rules.propertyNames (fun j =>
      .all (members.map fun (name, _) => .schema j (.string name)))

end ObjectRules

namespace Keywords

/-- The demands of the keywords for the kind of value that the instance is. -/
def shapedDemands (k : Keywords) (v : Value) : List Demand :=
  match v with
  | .null => []
  | .bool _ => []
  | .number n => k.numbers.demands n
  | .string s => k.strings.demands s
  | .array items => k.arrays.demands items
  | .object members => k.objects.demands members

/-- What all keywords that are present ask of an instance. -/
def demands (k : Keywords) (v : Value) : List Demand :=
  demandOf k.ref (fun ref => .linked ref.resolved v) ++
    k.combinators.trialDemands v ++
    demandOf k.const (fun c => .holds (c.same v)) ++
    demandOf k.enum (fun values => .holds (values.any fun c => c.same v)) ++
    k.combinators.listDemands v ++
    demandOf k.types (fun types => .holds (types.any fun t => t.accepts v)) ++
    k.shapedDemands v

end Keywords

/-- A demand is met, or it is not. -/
inductive Verdict (registry : Registry) : Demand → Bool → Prop where
  /-- A condition decides for itself. -/
  | holds (b : Bool) : Verdict registry (.holds b) b
  /-- `true` and `false` are verdicts. -/
  | bool {i : Nat} {v : Value} {node : Node} {b : Bool} : registry.get? i = some node →
      node.body = .bool b → Verdict registry (.schema i v) b
  /-- A schema has the verdict of all its keywords together. -/
  | keywords {i : Nat} {v : Value} {node : Node} {k : Keywords} {b : Bool} :
      registry.get? i = some node → node.body = .keywords k →
      Verdict registry (.all (k.demands v)) b → Verdict registry (.schema i v) b
  /-- A reference has the verdict of the schema that it leads to. -/
  | linked {i : Nat} {v : Value} {b : Bool} : Verdict registry (.schema i v) b →
      Verdict registry (.linked (some i) v) b
  /-- A negation has the opposite verdict. -/
  | negation {d : Demand} {b : Bool} : Verdict registry d b →
      Verdict registry (.negation d) (!b)
  /-- The condition is met. -/
  | onPass {c t e : Demand} {b : Bool} : Verdict registry c true → Verdict registry t b →
      Verdict registry (.branch c t e) b
  /-- The condition is not met. -/
  | onFail {c t e : Demand} {b : Bool} : Verdict registry c false → Verdict registry e b →
      Verdict registry (.branch c t e) b
  /-- All are met. -/
  | all_pass {ds : List Demand} : (∀ d ∈ ds, Verdict registry d true) →
      Verdict registry (.all ds) true
  /-- At least one of all is not met. -/
  | all_fail {ds : List Demand} {d : Demand} : d ∈ ds → Verdict registry d false →
      Verdict registry (.all ds) false
  /-- At least one is met. -/
  | some_pass {ds : List Demand} {d : Demand} : d ∈ ds → Verdict registry d true →
      Verdict registry (.some ds) true
  /-- None is met. -/
  | some_fail {ds : List Demand} : (∀ d ∈ ds, Verdict registry d false) →
      Verdict registry (.some ds) false
  /-- One is met, and none of the others. -/
  | one_pass {before after : List Demand} {d : Demand} : Verdict registry d true →
      (∀ e ∈ before ++ after, Verdict registry e false) →
      Verdict registry (.one (before ++ d :: after)) true
  /-- None is met, so not exactly one. -/
  | one_none {ds : List Demand} : (∀ d ∈ ds, Verdict registry d false) →
      Verdict registry (.one ds) false
  /-- Two are met, so not exactly one. -/
  | one_two {before between after : List Demand} {d e : Demand} : Verdict registry d true →
      Verdict registry e true →
      Verdict registry (.one (before ++ d :: (between ++ e :: after))) false

/-- There are never two verdicts. -/
theorem Verdict.unique {registry : Registry} {d : Demand} {b c : Bool}
    (h : Verdict registry d b) (h' : Verdict registry d c) : b = c := by
  induction h generalizing c with
  | holds b => cases h'; rfl
  | bool hn hb =>
      cases h' with
      | bool hn' hb' =>
          rw [hn] at hn'; cases hn'
          rw [hb] at hb'; cases hb'; rfl
      | keywords hn' hk' =>
          rw [hn] at hn'; cases hn'
          rw [hb] at hk'; exact nomatch hk'
  | keywords hn hk _ ih =>
      cases h' with
      | bool hn' hb' =>
          rw [hn] at hn'; cases hn'
          rw [hk] at hb'; exact nomatch hb'
      | keywords hn' hk' h' =>
          rw [hn] at hn'; cases hn'
          rw [hk] at hk'; cases hk'
          exact ih h'
  | linked _ ih => cases h' with | linked h' => exact ih h'
  | negation _ ih => cases h' with | negation h' => rw [ih h']
  | onPass _ _ ihc iht =>
      cases h' with
      | onPass _ h' => exact iht h'
      | onFail hc' _ => exact nomatch ihc hc'
  | onFail _ _ ihc ihe =>
      cases h' with
      | onPass hc' _ => exact nomatch ihc hc'
      | onFail _ h' => exact ihe h'
  | all_pass _ ih =>
      cases h' with
      | all_pass => rfl
      | all_fail hd hf => exact ih _ hd hf
  | all_fail hd _ ih =>
      cases h' with
      | all_pass hp => exact ih (hp _ hd)
      | all_fail => rfl
  | some_pass hd _ ih =>
      cases h' with
      | some_pass => rfl
      | some_fail hf => exact ih (hf _ hd)
  | some_fail _ ih =>
      cases h' with
      | some_pass hd hp => exact ih _ hd hp
      | some_fail => rfl
  | @one_pass before after d _ _ ihd iho =>
      generalize hds : before ++ d :: after = ds at h'
      cases h' with
      | one_pass => rfl
      | one_none hf => exact ihd (hf _ (by rw [← hds]; simp))
      | one_two hp hp' =>
          rcases mem_of_two_places hds with hm | hm
          · exact (iho _ hm hp).symm
          · exact (iho _ hm hp').symm
  | one_none _ ih =>
      cases h' with
      | one_pass hp => exact ih _ (by simp) hp
      | one_none => rfl
      | one_two => rfl
  | @one_two before between after d e _ _ ihd ihe =>
      generalize hds : before ++ d :: (between ++ e :: after) = ds at h'
      cases h' with
      | one_pass _ hf =>
          rcases mem_of_two_places hds.symm with hm | hm
          · exact (ihd (hf _ hm)).symm
          · exact (ihe (hf _ hm)).symm
      | one_none => rfl
      | one_two => rfl

end JsonSchema
