import JsonSchema.Proofs.Direct.Compiled
import JsonSchema.Proofs.Direct.Reachable
import Mathlib.Data.Set.Function

/-!
# What is in the registry of accepted documents

There is one node for each place that is reached, and no other node. The node carries what its own
schema says: each facet is what the value of its keyword is read as, each sub-schema has the index
of the node at its own place, and the reference leads where the text of the `$ref` does. It does not
matter when the node was compiled, or from where.
-/

namespace JsonSchema

open Compile Direct

/-! ## What a node carries -/

/-- What a keyword has become in a node: nothing if it is absent, and else what its value stands
for. -/
abbrev Facet {α : Type} (members : Members Value) (keyword : String) (stands : Value → α → Prop)
    (facet : Option α) : Prop :=
  Option.Rel stands (members.get? keyword) facet

/-- What a value is read as. -/
def ReadAs {α : Type} (read : Value → Except Flaw α) (v : Value) (a : α) : Prop := read v = .ok a

section

variable (index : Target → Nat → Prop) (here : Target)

/-- A sub-schema has the index of its place. -/
def Child (tokens : List String) (_ : Value) (j : Nat) : Prop := index (here.below tokens) j

/-- The sub-schemas in an array have the indices of their places. -/
def Children (keyword : String) (v : Value) (js : List Nat) : Prop :=
  ∃ schemas, v = .array schemas ∧ List.Forall₂
    (fun p j => index (here.below [keyword, toString p.2]) j) schemas.zipIdx js

/-- One sub-schema for all elements, or one for each of the first ones. -/
inductive ItemsOf : Value → Items → Prop
  | all {v : Value} {j : Nat} : (∀ schemas, v ≠ .array schemas) → Child index here ["items"] v j →
      ItemsOf v (.all j)
  | positional {v : Value} {js : List Nat} : Children index here "items" v js →
      ItemsOf v (.positional js)

/-- The members of an object, one by one. -/
def Entries {α : Type} (entry : String → Value → α → Prop) (v : Value) (as : List α) : Prop :=
  ∃ m, v = .object m ∧ List.Forall₂ (fun p a => entry p.1 p.2 a) m as

def PropertyOf (name : String) (v : Value) (a : String × Nat) : Prop :=
  a.1 = name ∧ Child index here ["properties", name] v a.2

def PatternPropertyOf (text : String) (v : Value) (a : Pattern × Nat) : Prop :=
  Pattern.ofText? text = some a.1 ∧ Child index here ["patternProperties", text] v a.2

inductive DependencyOf (name : String) : Value → String × Dependency → Prop
  | required {items : List Value} {names : List String} :
      ReadAs asStrings (.array items) names →
      DependencyOf name (.array items) (name, .required names)
  | schema {v : Value} {j : Nat} : (∀ items, v ≠ .array items) →
      Child index here ["dependencies", name] v j → DependencyOf name v (name, .schema j)

/-- A reference leads where its text does, and its link is the index of that place. -/
def RefOf (v : Value) (ref : Reference) : Prop :=
  ∃ text j, v = .string text ∧ here.base.resolve text = .ok ref.target ∧ ref.resolved = some j ∧
    index ref.target j

variable (members : Members Value)

structure CombinatorsOf (c : Combinators) : Prop where
  negated : Facet members "not" (Child index here ["not"]) c.negated
  condition : Facet members "if" (Child index here ["if"]) c.condition
  onPass : Facet members "then" (Child index here ["then"]) c.onPass
  onFail : Facet members "else" (Child index here ["else"]) c.onFail
  allOf : Facet members "allOf" (Children index here "allOf") c.allOf
  anyOf : Facet members "anyOf" (Children index here "anyOf") c.anyOf
  oneOf : Facet members "oneOf" (Children index here "oneOf") c.oneOf

structure NumberRulesOf (rules : NumberRules) : Prop where
  multipleOf : Facet members "multipleOf" (ReadAs asPositive) rules.multipleOf
  maximum : Facet members "maximum" (ReadAs asDouble) rules.maximum
  minimum : Facet members "minimum" (ReadAs asDouble) rules.minimum
  exclusiveMaximum : Facet members "exclusiveMaximum" (ReadAs asDouble) rules.exclusiveMaximum
  exclusiveMinimum : Facet members "exclusiveMinimum" (ReadAs asDouble) rules.exclusiveMinimum

structure StringRulesOf (rules : StringRules) : Prop where
  maxLength : Facet members "maxLength" (ReadAs asCount) rules.maxLength
  minLength : Facet members "minLength" (ReadAs asCount) rules.minLength
  pattern : Facet members "pattern" (ReadAs fun v => asString v >>= asPattern) rules.pattern

structure ArrayRulesOf (rules : ArrayRules) : Prop where
  items : Facet members "items" (ItemsOf index here) rules.items
  additionalItems : Facet members "additionalItems" (Child index here ["additionalItems"])
    rules.additionalItems
  maxItems : Facet members "maxItems" (ReadAs asCount) rules.maxItems
  minItems : Facet members "minItems" (ReadAs asCount) rules.minItems
  uniqueItems : rules.uniqueItems = true ↔ members.get? "uniqueItems" = some (.bool true)
  contains : Facet members "contains" (Child index here ["contains"]) rules.contains

structure ObjectRulesOf (rules : ObjectRules) : Prop where
  maxProperties : Facet members "maxProperties" (ReadAs asCount) rules.maxProperties
  minProperties : Facet members "minProperties" (ReadAs asCount) rules.minProperties
  required : Facet members "required" (ReadAs asStrings) rules.required
  properties : Facet members "properties" (Entries (PropertyOf index here)) rules.properties
  patternProperties : Facet members "patternProperties" (Entries (PatternPropertyOf index here))
    rules.patternProperties
  additionalProperties : Facet members "additionalProperties"
    (Child index here ["additionalProperties"]) rules.additionalProperties
  dependencies : Facet members "dependencies" (Entries (DependencyOf index here))
    rules.dependencies
  propertyNames : Facet members "propertyNames" (Child index here ["propertyNames"])
    rules.propertyNames

structure KeywordsOf (k : Keywords) : Prop where
  ref : Facet members "$ref" (RefOf index here) k.ref
  types : Facet members "type" (ReadAs asTypes) k.types
  const : k.const = members.get? "const"
  enum : Facet members "enum" (ReadAs asArray) k.enum
  combinators : CombinatorsOf index here members k.combinators
  numbers : NumberRulesOf members k.numbers
  strings : StringRulesOf members k.strings
  arrays : ArrayRulesOf index here members k.arrays
  objects : ObjectRulesOf index here members k.objects

/-- The body of a node carries what the schema at `here` says. -/
inductive Carries : Value → Body → Prop
  | bool (b : Bool) : Carries (.bool b) (.bool b)
  | keywords {members : Members Value} {k : Keywords} : KeywordsOf index here members k →
      Carries (.object members) (.keywords k)

end

/-! ## Reading keywords -/

section

variable {index : Target → Nat → Prop} {here : Target} {members : Members Value}

theorem facet_of_optional {α : Type} {keyword : String} {read : Value → Except Flaw α}
    {o : Option α} (h : Compile.optional members keyword read here = .ok o) :
    Facet members keyword (ReadAs read) o := optional_eq_ok.mp h

theorem facet_of_schemasOf {keyword : String} {o : Option (List Nat)}
    (h : (schemasOf here members keyword).Yields index o) :
    Facet members keyword (Children index here keyword) o := by
  unfold Facet
  rcases yields_schemasOf h with ⟨hm, rfl⟩ | ⟨schemas, js, hm, rfl, hjs⟩
  · rw [hm]
    exact .none
  · rw [hm]
    exact .some ⟨schemas, rfl, hjs⟩

theorem facet_of_itemsOf {o : Option Items} (h : (itemsOf here members).Yields index o) :
    Facet members "items" (ItemsOf index here) o := by
  unfold Facet
  rcases yields_itemsOf h with ⟨hm, rfl⟩ | ⟨schemas, js, hm, rfl, hjs⟩ | ⟨v, j, hm, hv, rfl, hj⟩
  · rw [hm]
    exact .none
  · rw [hm]
    exact .some (.positional ⟨schemas, rfl, hjs⟩)
  · rw [hm]
    exact .some (.all hv hj)

theorem facet_of_eachMember {α : Type} {entry : String → Value → Reading α}
    {stands : String → Value → α → Prop} {keyword : String}
    (hentry : ∀ name v a, (entry name v).Yields index a → stands name v a) {o : Option (List α)}
    (h : (eachMember entry here members keyword).Yields index o) :
    Facet members keyword (Entries stands) o := by
  unfold Facet
  rcases yields_eachMember h with ⟨hm, rfl⟩ | ⟨m, as, hm, rfl, has⟩
  · rw [hm]
    exact .none
  · rw [hm]
    exact .some ⟨m, rfl, has.imp fun _ _ ha => hentry _ _ _ ha⟩

theorem dependencyOf_of_yields (name : String) (v : Value) (a : String × Dependency)
    (h : (dependencyAt here name v).Yields index a) : DependencyOf index here name v a := by
  obtain ⟨name', d⟩ := a
  obtain ⟨rfl, ⟨items, names, rfl, hs, rfl⟩ | ⟨j, hv, rfl, hj⟩⟩ := yields_dependency h
  · exact .required hs
  · exact .schema hv hj

theorem combinatorsOf_of_yields {c : Combinators}
    (h : (Compile.combinators here members).Yields index c) :
    CombinatorsOf index here members c := by
  unfold Compile.combinators at h
  simp only [Reading.yields_bind, Reading.yields_pure] at h
  obtain ⟨negated, hn, condition, hc, onPass, ht, onFail, he, allOf, ha, anyOf, hy, oneOf, ho,
    rfl⟩ := h
  exact ⟨yields_schemaOf hn, yields_schemaOf hc, yields_schemaOf ht, yields_schemaOf he,
    facet_of_schemasOf ha, facet_of_schemasOf hy, facet_of_schemasOf ho⟩

theorem numberRulesOf_of_ok {rules : NumberRules}
    (h : Compile.numberRules here members = .ok rules) : NumberRulesOf members rules := by
  obtain ⟨multipleOf, h₁, h⟩ := bind_eq_ok h
  obtain ⟨maximum, h₂, h⟩ := bind_eq_ok h
  obtain ⟨minimum, h₃, h⟩ := bind_eq_ok h
  obtain ⟨exclusiveMaximum, h₄, h⟩ := bind_eq_ok h
  obtain ⟨exclusiveMinimum, h₅, h⟩ := bind_eq_ok h
  cases h
  exact ⟨facet_of_optional h₁, facet_of_optional h₂, facet_of_optional h₃, facet_of_optional h₄,
    facet_of_optional h₅⟩

theorem stringRulesOf_of_ok {rules : StringRules}
    (h : Compile.stringRules here members = .ok rules) : StringRulesOf members rules := by
  obtain ⟨maxLength, h₁, h⟩ := bind_eq_ok h
  obtain ⟨minLength, h₂, h⟩ := bind_eq_ok h
  obtain ⟨pattern, h₃, h⟩ := bind_eq_ok h
  cases h
  exact ⟨facet_of_optional h₁, facet_of_optional h₂, facet_of_optional h₃⟩

/-- Only `true` asks for elements that differ. -/
theorem uniqueItems_iff {o : Option Bool}
    (h : Facet members "uniqueItems" (ReadAs asBool) o) :
    o.getD false = true ↔ members.get? "uniqueItems" = some (.bool true) := by
  unfold Facet at h
  generalize members.get? "uniqueItems" = w at h ⊢
  cases h with
  | none => simp
  | @some v b hread =>
      cases v with
      | bool c =>
          have hcb : c = b := Except.ok.inj hread
          simp [hcb]
      | _ => exact nomatch hread

theorem arrayRulesOf_of_yields {rules : ArrayRules}
    (h : (Compile.arrayRules here members).Yields index rules) :
    ArrayRulesOf index here members rules := by
  unfold Compile.arrayRules at h
  simp only [Reading.yields_bind, Reading.yields_pure, Reading.yields_lift] at h
  obtain ⟨items, hi, additionalItems, ha, maxItems, hmax, minItems, hmin, uniqueItems, hu,
    contains, hc, rfl⟩ := h
  exact ⟨facet_of_itemsOf hi, yields_schemaOf ha, facet_of_optional hmax, facet_of_optional hmin,
    uniqueItems_iff (facet_of_optional hu), yields_schemaOf hc⟩

theorem objectRulesOf_of_yields {rules : ObjectRules}
    (h : (Compile.objectRules here members).Yields index rules) :
    ObjectRulesOf index here members rules := by
  unfold Compile.objectRules at h
  simp only [Reading.yields_bind, Reading.yields_pure, Reading.yields_lift] at h
  obtain ⟨maxProperties, hmax, minProperties, hmin, required, hr, properties, hp,
    patternProperties, hpp, additionalProperties, ha, dependencies, hd, propertyNames, hn, rfl⟩ := h
  have hproperties : Facet members "properties" (Entries (PropertyOf index here)) properties :=
    facet_of_eachMember (fun _ _ _ => yields_property) hp
  have hpatterns : Facet members "patternProperties" (Entries (PatternPropertyOf index here))
      patternProperties :=
    facet_of_eachMember (fun _ _ _ hy => ⟨(yields_patternProperty hy).1,
      (yields_patternProperty hy).2.2⟩) hpp
  exact ⟨facet_of_optional hmax, facet_of_optional hmin, facet_of_optional hr, hproperties,
    hpatterns, yields_schemaOf ha, facet_of_eachMember dependencyOf_of_yields hd,
    yields_schemaOf hn⟩

/-- The reference of a node that has been linked. -/
theorem refOf_of_linked {r : Registry} {own ref : Option Reference}
    (hown : Compile.optional members "$ref" (asReference here.base) here = .ok own)
    (hl : Option.Rel r.LinkedFrom own ref) (hlinked : ∀ ref' ∈ ref, ∃ j, ref'.resolved = some j) :
    Facet members "$ref" (RefOf (fun place j => r.lookup place.key = some j) here) ref := by
  have hread := facet_of_optional hown
  unfold Facet at hread ⊢
  generalize members.get? "$ref" = w at hread ⊢
  cases hread with
  | none => cases hl; exact .none
  | some hv =>
      cases hl with
      | @some _ ref' hfrom =>
          -- linking keeps the target, and the link is what is found under its key
          obtain ⟨text, rfl, hresolve⟩ := asReference_eq_ok hv
          obtain ⟨j, hj⟩ := hlinked ref' rfl
          refine .some ⟨text, j, rfl, ?_, hj, hfrom.resolved j hj⟩
          rw [hfrom.target]
          exact hresolve

/-- **A node that represents a schema carries what it says.** -/
theorem carries_of_represents {r : Registry} {i : Nat} {v : Value} {body : Body}
    (h : r.Represents i here v body)
    (hlinked : ∀ k, body = .keywords k → ∀ ref ∈ k.ref, ∃ j, ref.resolved = some j) :
    Carries (fun place j => r.lookup place.key = some j) here v body := by
  cases h with
  | bool b => exact .bool b
  | @keywords members k own hk hl =>
      have href := refOf_of_linked (optional_ref_of_yields hk) hl (hlinked k rfl)
      -- of a sub-schema only the index counts here, not that it was there before its parent
      replace hk := hk.mono fun _ _ hi => hi.2
      unfold Compile.keywords at hk
      simp only [Reading.yields_bind, Reading.yields_pure, Reading.yields_lift] at hk
      obtain ⟨_, _, types, ht, enum, he, combinators, hc, numbers, hn, strings, hs, arrays, ha,
        objects, ho, heq⟩ := hk
      simp only [Keywords.mk.injEq] at heq
      obtain ⟨_, rfl, hconst, rfl, rfl, rfl, rfl, rfl, rfl⟩ := heq
      exact .keywords ⟨href, facet_of_optional ht, hconst, facet_of_optional he,
        combinatorsOf_of_yields hc, numberRulesOf_of_ok hn, stringRulesOf_of_ok hs,
        arrayRulesOf_of_yields ha, objectRulesOf_of_yields ho⟩

end

/-! ## Accepted documents -/

/-- A node of accepted documents carries what the schema says that it was compiled from. -/
theorem carries_of_ofDocuments {documents : List Value} {stands : Target → Value → Prop}
    (hs : Supports documents stands) {bundle : Bundle}
    (h : Bundle.ofDocuments documents = .ok bundle) {i : Nat} {node : Node}
    (hn : bundle.registry.get? i = some node) :
    ∃ here v, stands here v ∧
      Carries (fun place j => bundle.registry.lookup place.key = some j) here v node.body := by
  obtain ⟨hf, hl, _⟩ := Bundle.linked_of_ofDocuments hs h
  obtain ⟨here, v, _, hv, hrep⟩ := hf.compiled hn
  exact ⟨here, v, hv, carries_of_represents hrep fun k hk ref href =>
    hl hn (Node.ref?_of_keywords hk href)⟩

/-- Each node stands for one place that is reached. -/
theorem exists_places {documents : List Value} {r : Registry}
    (hf : r.Faithful (ReachedAt documents)) (hroots : r.Rooted documents)
    (hbound : r.Bound documents) :
    ∃ place : Nat → Target,
      Set.BijOn place {i | i < r.size} {here | Reachable documents here} ∧
        ∀ i < r.size, r.lookup (place i).key = some i := by
  have hstands := hf.mono fun here v (hv : ReachedAt documents here v) => hv.2
  have hexists : ∀ i, ∃ here, i < r.size →
      Reachable documents here ∧ r.lookup here.key = some i := by
    intro i
    by_cases hi : i < r.size
    · have hnode : r.get? i = some r.nodes[i] := Array.getElem?_eq_getElem hi
      obtain ⟨here, v, huri, hv, _⟩ := hf.compiled hnode
      exact ⟨here, fun _ => ⟨hv.1, huri ▸ hf.found hnode⟩⟩
    · exact ⟨{ base := .anonymous, pointer := .root }, fun hlt => absurd hlt hi⟩
  choose place hplace using hexists
  refine ⟨place, ⟨fun i hi => (hplace i hi).1, fun i hi j hj heq => ?_, fun here hhere => ?_⟩,
    fun i hi => (hplace i hi).2⟩
  · -- a key has one index
    have hlookup := (hplace i hi).2
    rw [heq, (hplace j hj).2] at hlookup
    exact (Option.some.inj hlookup).symm
  · obtain ⟨i, hi⟩ := Option.isSome_iff_exists.mp
      (Registry.isSome_of_reachable hstands hroots hbound hhere)
    have hlt := hf.coherent.lt_size hi
    exact ⟨i, hlt, hf.coherent.eq_of_lookup (hplace i hlt).2 hi⟩

/-- **The registry of accepted documents is made up of the places that are reached**, one node for
each, and the node at a place carries what the schema there says. -/
theorem registry_of_ofDocuments (documents : List Value)
    (hd : ∀ document ∈ documents, document.Distinct) (bundle : Bundle)
    (h : Bundle.ofDocuments documents = .ok bundle) :
    ∃ place : Nat → Target,
      Set.BijOn place {i | i < bundle.registry.size} {here | Reachable documents here} ∧
        ∀ i node, bundle.registry.get? i = some node → node.uri = (place i).key ∧
          bundle.registry.lookup (place i).key = some i ∧
          ∃ v, valueAt documents (place i) = some v ∧
            Carries (fun there j => bundle.registry.lookup there.key = some j) (place i) v
              node.body := by
  obtain ⟨hf, hl, hroots⟩ := Bundle.linked_of_ofDocuments (supports_reachable hd) h
  have hstands := hf.mono fun here v (hv : ReachedAt documents here v) => hv.2
  have hrooted := Registry.rooted_of_roots hroots
  obtain ⟨place, hbij, hplace⟩ := exists_places hf hrooted (Registry.bound_of_linked hf hl)
  refine ⟨place, hbij, fun i node hnode => ?_⟩
  have hlt : i < bundle.registry.size := by
    obtain ⟨hlt, _⟩ := Array.getElem?_eq_some_iff.mp hnode
    exact hlt
  obtain ⟨node', v, hnode', huri, hv, hrep⟩ := represents_of_lookup hstands (hplace i hlt)
  rw [hnode] at hnode'
  cases hnode'
  refine ⟨huri, hplace i hlt, v, hv, carries_of_represents hrep fun k hk ref href => ?_⟩
  refine hl hnode (?_ : node.ref? = some ref)
  unfold Node.ref?
  rw [hk]
  exact href

/-- A document whose schemas refer to each other, below a name that has to be escaped. -/
def escaped : Value :=
  .object [("$id", .string "urn:a"), ("properties", .object [("x/y", .object [
    ("items", .array [.bool true, .object [("$ref", .string "#/properties/x~1y/default")]]),
    ("default", .object [("not", .bool false)])])])]

theorem registry_of_ofDocuments_escaped :
    (∀ document ∈ [escaped], document.Distinct) ∧
    ∃ bundle, Bundle.ofDocuments [escaped] = .ok bundle ∧
      (bundle.registry.nodes.toList.map Node.uri = ["urn:a#/properties/x~1y/items/0",
        "urn:a#/properties/x~1y/items/1", "urn:a#/properties/x~1y", "urn:a",
        "urn:a#/properties/x~1y/default/not", "urn:a#/properties/x~1y/default"]) ∧
      ∃ place : Nat → Target,
        Set.BijOn place {i | i < bundle.registry.size} {here | Reachable [escaped] here} ∧
          ∀ i node, bundle.registry.get? i = some node → node.uri = (place i).key ∧
            bundle.registry.lookup (place i).key = some i ∧
            ∃ v, valueAt [escaped] (place i) = some v ∧
              Carries (fun there j => bundle.registry.lookup there.key = some j) (place i) v
                node.body := by
  have hd : ∀ document ∈ [escaped], document.Distinct := by
    simp [escaped, Members.Distinct, Value.Distinct, Value.DistinctItems, Value.DistinctMembers]
  have hnodes : (Bundle.ofDocuments [escaped]).toOption.map
      (fun bundle => bundle.registry.nodes.toList.map Node.uri) =
        some ["urn:a#/properties/x~1y/items/0", "urn:a#/properties/x~1y/items/1",
          "urn:a#/properties/x~1y", "urn:a", "urn:a#/properties/x~1y/default/not",
          "urn:a#/properties/x~1y/default"] := by
    decide +kernel
  cases hbundle : Bundle.ofDocuments [escaped] with
  | error e => rw [hbundle] at hnodes; cases hnodes
  | ok bundle =>
      rw [hbundle] at hnodes
      exact ⟨hd, bundle, rfl, Option.some.inj hnodes,
        registry_of_ofDocuments [escaped] hd bundle hbundle⟩

end JsonSchema
