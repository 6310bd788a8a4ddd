import JsonSchema.Proofs.Compilation.Subschemas
import JsonSchema.Proofs.Direct.Documents
import JsonSchema.Proofs.Direct.Tasks
import JsonSchema.Proofs.Evaluation.Related

/-!
# Compiled keywords have the tasks of the schema

What the compiler reads from a schema are the keywords of a node. The tasks of this node are those
that the schema itself has when it is read directly, except that sub-schemas are referred to by
index where they were referred to by place. Every keyword is met here once: its tokens, the value
that is put to its sub-schema, and the place where that sub-schema was compiled must fit together.
-/

namespace JsonSchema

/-- The branch of a node that was compiled from the branch of a schema at `here`. -/
structure CompiledBranch (here : Target) (index : Target → Nat → Prop) (b : Branch Target)
    (c : Branch Nat) : Prop where
  /-- The ways to the sub-schema are the same. -/
  tokens : b.tokens = c.tokens
  /-- They lead further down. -/
  down : b.tokens ≠ []
  /-- The ways to the value are the same. -/
  token : b.token = c.token
  /-- The values are the same. -/
  value : b.value = c.value
  /-- The sub-schema stands where the way leads. -/
  place : b.schema = here.below b.tokens
  /-- It has this index. -/
  index : index b.schema c.schema

/-- The tasks of a node that were compiled from the tasks of a schema at `here`. -/
abbrev CompiledTasks (here : Target) (index : Target → Nat → Prop) (tasks : List (Task Target))
    (tasks' : List (Task Nat)) : Prop :=
  List.Forall₂ (Task.Rel (CompiledBranch here index)) tasks tasks'

namespace Compile

open Reading Direct

variable {here : Target} {members : Members Value} {index : Target → Nat → Prop}

theorem compiledBranch {keyword : String} {tokens : List String} {j : Nat}
    (h : index (here.below (keyword :: tokens)) j) (token : Option String) (v : Value) :
    CompiledBranch here index (branch here (keyword :: tokens) token v)
      ⟨keyword :: tokens, token, j, v⟩ :=
  ⟨rfl, List.cons_ne_nil _ _, rfl, rfl, rfl, h⟩

theorem compiled_descend {bs : List (Branch Target)} {cs : List (Branch Nat)}
    (h : List.Forall₂ (CompiledBranch here index) bs cs) :
    CompiledTasks here index (bs.map .descend) (cs.map .descend) := by
  rw [CompiledTasks, List.forall₂_map_left_iff, List.forall₂_map_right_iff]
  exact h.imp fun _ _ => Task.Rel.descend

theorem CompiledTasks.append {l₁ l₂ : List (Task Target)} {l₁' l₂' : List (Task Nat)}
    (h₁ : CompiledTasks here index l₁ l₁') (h₂ : CompiledTasks here index l₂ l₂') :
    CompiledTasks here index (l₁ ++ l₂) (l₁' ++ l₂') := List.rel_append h₁ h₂

theorem compiled_require (object : Members Value) (tokens names : List String) :
    CompiledTasks here index (requireTasks object tokens names)
      (requireTasks object tokens names) := by
  unfold requireTasks
  rw [CompiledTasks, List.forall₂_map_left_iff, List.forall₂_map_right_iff, List.forall₂_same]
  exact fun p _ => .check _ _

/-! ## What reading a keyword yields -/

theorem given_of_optional {α : Type} {keyword : String} {read : Value → Except Flaw α}
    {o : Option α} (h : optional members keyword read here = .ok o) :
    given members keyword read = o := by
  have hread := optional_eq_ok.mp h
  unfold given
  generalize members.get? keyword = w at hread ⊢
  cases hread with
  | none => rfl
  | some hv => rw [Option.bind_some, hv]; rfl

theorem yields_schemaOf {keyword : String} {o : Option Nat}
    (h : (schemaOf here members keyword).Yields index o) :
    Option.Rel (fun _ j => index (here.below [keyword]) j) (members.get? keyword) o := by
  unfold schemaOf at h
  cases hm : members.get? keyword with
  | none =>
      rw [hm] at h
      rw [yields_pure.mp h]
      exact .none
  | some v =>
      rw [hm] at h
      obtain ⟨j, hj, h⟩ := yields_bind.mp h
      rw [yields_pure.mp h]
      exact .some (yields_sub.mp hj)

/-- The indices of the schemas of an array. -/
abbrev Indices (here : Target) (index : Target → Nat → Prop) (keyword : String)
    (schemas : List Value) (js : List Nat) : Prop :=
  List.Forall₂ (fun p j => index (here.below [keyword, toString p.2]) j) schemas.zipIdx js

theorem yields_schemasAt {keyword : String} {schemas : List Value} {js : List Nat}
    (h : (schemasAt (here.below [keyword]) schemas).Yields index js) :
    Indices here index keyword schemas js := by
  refine (yields_mapM.mp h).imp fun p j hj => ?_
  have hj := yields_sub.mp hj
  rwa [Target.below_below] at hj

theorem yields_schemasOf {keyword : String} {o : Option (List Nat)}
    (h : (schemasOf here members keyword).Yields index o) :
    (members.get? keyword = none ∧ o = none) ∨
      ∃ schemas js, members.get? keyword = some (.array schemas) ∧ o = some js ∧
        Indices here index keyword schemas js := by
  unfold schemasOf at h
  split at h
  · rename_i hm
    exact Or.inl ⟨hm, yields_pure.mp h⟩
  · rename_i v rest hm
    obtain ⟨js, hjs, h⟩ := yields_bind.mp h
    exact Or.inr ⟨v :: rest, js, hm, yields_pure.mp h, yields_schemasAt hjs⟩
  · exact absurd h (by rw [yields_failed]; exact id)

theorem yields_itemsOf {o : Option Items} (h : (itemsOf here members).Yields index o) :
    (members.get? "items" = none ∧ o = none) ∨
      (∃ schemas js, members.get? "items" = some (.array schemas) ∧ o = some (.positional js) ∧
        Indices here index "items" schemas js) ∨
      ∃ v j, members.get? "items" = some v ∧ (∀ schemas, v ≠ .array schemas) ∧
        o = some (.all j) ∧ index (here.below ["items"]) j := by
  unfold itemsOf at h
  split at h
  · rename_i hm
    exact Or.inl ⟨hm, yields_pure.mp h⟩
  · rename_i schemas hm
    obtain ⟨js, hjs, h⟩ := yields_bind.mp h
    exact Or.inr (Or.inl ⟨schemas, js, hm, yields_pure.mp h, yields_schemasAt hjs⟩)
  · rename_i m hm
    obtain ⟨j, hj, h⟩ := yields_bind.mp h
    exact Or.inr (Or.inr ⟨_, j, hm, fun _ he => (nomatch he), yields_pure.mp h, yields_sub.mp hj⟩)
  · rename_i b hm
    obtain ⟨j, hj, h⟩ := yields_bind.mp h
    exact Or.inr (Or.inr ⟨_, j, hm, fun _ he => (nomatch he), yields_pure.mp h, yields_sub.mp hj⟩)
  · exact absurd h (by rw [yields_failed]; exact id)

/-- The members of a keyword are read one by one. -/
theorem yields_eachMember {α : Type} {entry : String → Value → Reading α} {keyword : String}
    {o : Option (List α)} (h : (eachMember entry here members keyword).Yields index o) :
    (members.get? keyword = none ∧ o = none) ∨
      ∃ m as, members.get? keyword = some (.object m) ∧ o = some as ∧
        List.Forall₂ (fun p a => (entry p.1 p.2).Yields index a) m as := by
  unfold eachMember membersOf at h
  obtain ⟨own, hown, h⟩ := yields_bind.mp h
  rw [yields_lift] at hown
  split at hown
  · rename_i hm
    cases hown
    exact Or.inl ⟨hm, yields_pure.mp h⟩
  · rename_i m hm
    cases hown
    obtain ⟨as, has, h⟩ := yields_bind.mp h
    exact Or.inr ⟨m, as, hm, yields_pure.mp h, yields_mapM.mp has⟩
  · exact nomatch hown

/-! ## Lists side by side -/

/-- Looking up a name in lists with the same names. -/
theorem rel_get? {α β : Type} {R : String → β → Prop} {m : Members α} {as : Members β}
    (h : List.Forall₂ (fun p a => a.1 = p.1 ∧ R p.1 a.2) m as) (name : String) :
    if m.has name then ∃ a, as.get? name = some a ∧ R name a else as.get? name = none := by
  induction h with
  | nil => rfl
  | @cons p a m as hp _ ih =>
      obtain ⟨hname, hr⟩ := hp
      obtain ⟨n, b⟩ := a
      obtain ⟨n', c⟩ := p
      subst hname
      unfold Members.has at ih ⊢
      rw [Members.get?_cons, Members.get?_cons]
      by_cases hn : name = n
      · subst hn
        simp only [if_true, Option.isSome_some]
        exact ⟨b, rfl, hr⟩
      · rw [if_neg hn, if_neg hn]
        exact ih

/-! ## Keywords that combine schemas -/

theorem compiled_branchOf? {keyword : String} {o : Option Nat}
    (h : Option.Rel (fun _ j => index (here.below [keyword]) j) (members.get? keyword) o)
    (v : Value) :
    Option.Rel (CompiledBranch here index) (branchOf? here members keyword v)
      (o.map fun j => ⟨[keyword], none, j, v⟩) := by
  unfold branchOf?
  generalize members.get? keyword = w at h ⊢
  cases h with
  | none => exact .none
  | some hj => exact .some (compiledBranch hj none v)

theorem compiled_listBranches {keyword : String} {schemas : List Value} {js : List Nat}
    (h : Indices here index keyword schemas js) (v : Value) :
    List.Forall₂ (CompiledBranch here index) (listBranches here keyword schemas v)
      (Combinators.listBranches keyword js v) := by
  unfold listBranches Combinators.listBranches
  rw [List.forall₂_map_left_iff, List.forall₂_map_right_iff]
  have hzip := forall₂_zipIdx (R := fun i j => index (here.below [keyword, toString i]) j) h
  refine hzip.imp fun (_, i) (j, i') ⟨hn, hj⟩ => ?_
  cases hn
  exact compiledBranch hj none v

/-- A trial on the schemas of a keyword that takes an array of them. -/
theorem compiled_lists {keyword : String} {o : Option (List Nat)} (v : Value)
    {f : List (Branch Target) → List (Task Target)} {g : List (Branch Nat) → List (Task Nat)}
    (hfg : ∀ bs cs, List.Forall₂ (CompiledBranch here index) bs cs →
      CompiledTasks here index (f bs) (g cs)) :
    (schemasOf here members keyword).Yields index o →
    CompiledTasks here index
      (match members.get? keyword with
        | some (.array schemas) => f (listBranches here keyword schemas v)
        | _ => [])
      (match o with
        | none => []
        | some js => g (Combinators.listBranches keyword js v)) := by
  intro h
  -- the keyword is absent on both sides, or an array of as many schemas as indices
  rcases yields_schemasOf h with ⟨hm, rfl⟩ | ⟨schemas, js, hm, rfl, hjs⟩
  · rw [hm]
    exact .nil
  · rw [hm]
    exact hfg _ _ (compiled_listBranches hjs v)

theorem compiled_combinators {k : Combinators} (h : (combinators here members).Yields index k)
    (v : Value) :
    CompiledTasks here index (negatedTasks here members v) (k.negatedTasks v) ∧
      CompiledTasks here index (conditionalTasks here members v) (k.conditionalTasks v) ∧
      CompiledTasks here index (listTasks here members v) (k.listTasks v) := by
  unfold combinators at h
  simp only [yields_bind, yields_pure] at h
  obtain ⟨negated, hn, condition, hc, onPass, ht, onFail, he, allOf, ha, anyOf, hy, oneOf, ho,
    rfl⟩ := h
  refine ⟨?_, ?_, ?_⟩
  · unfold negatedTasks Combinators.negatedTasks
    have hb := compiled_branchOf? (yields_schemaOf hn) v
    generalize branchOf? here members "not" v = b at hb ⊢
    cases negated with
    | none => cases hb; exact .nil
    | some j => cases hb with | some hb => exact .cons (.refute _ hb) .nil
  · unfold conditionalTasks Combinators.conditionalTasks
    have hb := compiled_branchOf? (yields_schemaOf hc) v
    generalize branchOf? here members "if" v = b at hb ⊢
    cases condition with
    | none => cases hb; exact .nil
    | some j =>
        cases hb with
        | some hb =>
            exact .cons (.choose hb (compiled_branchOf? (yields_schemaOf ht) v)
              (compiled_branchOf? (yields_schemaOf he) v)) .nil
  · unfold listTasks Combinators.listTasks
    refine CompiledTasks.append (CompiledTasks.append ?_ ?_) ?_
    · have hall := compiled_lists v (f := fun bs => bs.map .descend)
        (g := fun cs => cs.map .descend) (fun _ _ => compiled_descend) ha
      cases allOf with
      | none => exact hall
      | some js => exact hall
    · exact compiled_lists v (f := fun bs => [.some bs ["anyOf"]])
        (g := fun cs => [.some cs ["anyOf"]]) (fun _ _ hb => .cons (.some _ hb) .nil) hy
    · exact compiled_lists v (f := fun bs => [.one bs ["oneOf"]])
        (g := fun cs => [.one cs ["oneOf"]]) (fun _ _ hb => .cons (.one _ hb) .nil) ho

/-! ## Arrays -/

/-- One sub-schema put to each of a list of elements. -/
theorem compiled_each {keyword : String} {j : Nat} (h : index (here.below [keyword]) j)
    (items : List (Value × Nat)) :
    List.Forall₂ (CompiledBranch here index)
      (items.map fun (v, i) => branch here [keyword] (some (toString i)) v)
      (items.map fun (v, i) => ⟨[keyword], some (toString i), j, v⟩) := by
  rw [List.forall₂_map_left_iff, List.forall₂_map_right_iff, List.forall₂_same]
  exact fun (v, i) _ => compiledBranch h (some (toString i)) v

theorem compiled_elementBranches {rules : ArrayRules} {items : Option Items}
    {additionalItems : Option Nat} (hitems : (itemsOf here members).Yields index items)
    (hadditional : (schemaOf here members "additionalItems").Yields index additionalItems)
    (hrules : rules.items = items ∧ rules.additionalItems = additionalItems)
    (elements : List Value) :
    List.Forall₂ (CompiledBranch here index) (elementBranches here members elements)
      (rules.elementBranches elements) := by
  unfold elementBranches ArrayRules.elementBranches
  rw [hrules.1, hrules.2]
  rcases yields_itemsOf hitems with
    ⟨hm, rfl⟩ | ⟨schemas, js, hm, rfl, hjs⟩ | ⟨v, j, hm, hv, rfl, hj⟩
  · rw [hm]
    exact .nil
  · rw [hm]
    -- both sides leave the same elements to `additionalItems`
    have hlength : schemas.length = js.length := by
      have hlen := hjs.length_eq
      rwa [List.length_zipIdx] at hlen
    have hzip := forall₂_zip_zipIdx
      (R := fun i j => index (here.below ["items", toString i]) j) hjs elements
    refine List.rel_append ?_ ?_
    · rw [List.forall₂_map_left_iff, List.forall₂_map_right_iff]
      refine hzip.imp fun ((_, v), i) ((j, v'), i') ⟨hn, hv, hj⟩ => ?_
      cases hn
      cases hv
      exact compiledBranch hj (some (toString i)) v
    · have hadd := yields_schemaOf hadditional
      rw [hlength]
      generalize members.get? "additionalItems" = w at hadd
      cases hadd with
      | none =>
          have hnil : ∀ (β : Type) (l : List (Value × Nat)),
              l.flatMap (fun _ => ([] : List β)) = [] :=
            fun _ l => List.flatMap_eq_nil_iff.mpr fun _ _ => rfl
          simp only [Option.toList, List.map_nil, hnil]
          exact .nil
      | some hj =>
          simp only [Option.toList, List.map_cons, List.map_nil, ← List.map_eq_flatMap]
          exact compiled_each hj _
  · rw [hm]
    have hall := compiled_each hj elements.zipIdx
    cases v with
    | array schemas => exact absurd rfl (hv schemas)
    | _ => exact hall

theorem compiled_array {rules : ArrayRules} (h : (arrayRules here members).Yields index rules)
    (items : List Value) :
    CompiledTasks here index (arrayTasks here members items) (rules.tasks items) := by
  unfold arrayRules at h
  simp only [yields_bind, yields_pure, yields_lift] at h
  obtain ⟨itemsForm, hi, additionalItems, ha, maxItems, hmax, minItems, hmin, uniqueItems, hu,
    contains, hc, rfl⟩ := h
  unfold arrayTasks ArrayRules.tasks
  rw [given_of_optional hmax, given_of_optional hmin, given_of_optional hu]
  refine CompiledTasks.append (CompiledTasks.append ?_ ?_) ?_
  · exact compiled_descend (compiled_elementBranches hi ha ⟨rfl, rfl⟩ items)
  · exact .cons (.check _ _) (.cons (.check _ _) (.cons (.check _ _) .nil))
  · have hb := yields_schemaOf hc
    generalize members.get? "contains" = w at hb ⊢
    cases hb with
    | none => exact .nil
    | some hj => exact .cons (.some _ (compiled_each hj _)) .nil

/-! ## Objects -/

theorem entries_eq {keyword : String} {m : Members Value}
    (h : members.get? keyword = some (.object m)) : entries members keyword = m := by
  unfold entries
  rw [h]

theorem entries_none {keyword : String} (h : members.get? keyword = none) :
    entries members keyword = [] := by
  unfold entries
  rw [h]

/-- What the entries of a keyword yield, taken together. -/
theorem yields_entries {α : Type} {entry : String → Value → Reading α} {keyword : String}
    {o : Option (List α)} (h : (eachMember entry here members keyword).Yields index o) :
    List.Forall₂ (fun p a => (entry p.1 p.2).Yields index a) (entries members keyword)
      (o.getD []) := by
  rcases yields_eachMember h with ⟨hm, rfl⟩ | ⟨m, as, hm, rfl, has⟩
  · rw [entries_none hm]
    exact .nil
  · rw [entries_eq hm]
    exact has

theorem yields_property {name : String} {v : Value} {a : String × Nat}
    (h : (propertyAt here name v).Yields index a) :
    a.1 = name ∧ index (here.below ["properties", name]) a.2 := by
  unfold propertyAt at h
  obtain ⟨j, hj, h⟩ := yields_bind.mp h
  rw [yields_pure.mp h]
  exact ⟨rfl, yields_sub.mp hj⟩

theorem yields_patternProperty {text : String} {v : Value} {a : Pattern × Nat}
    (h : (patternPropertyAt here text v).Yields index a) :
    Pattern.ofText? text = some a.1 ∧ a.1.text = text ∧
      index (here.below ["patternProperties", text]) a.2 := by
  unfold patternPropertyAt asPattern at h
  cases ht : Pattern.ofText? text with
  | none =>
      rw [ht] at h
      exact absurd h (by rw [yields_failed]; exact id)
  | some pattern =>
      rw [ht] at h
      obtain ⟨j, hj, h⟩ := yields_bind.mp h
      have htext : pattern.text = text := by
        obtain ⟨expr, _, hp⟩ := Option.map_eq_some_iff.mp ht
        rw [← hp]
      rw [yields_pure.mp h]
      exact ⟨rfl, htext, yields_sub.mp hj⟩

/-- A member of `dependencies` is a list of names or a schema. -/
theorem yields_dependency {name : String} {v : Value} {a : String × Dependency}
    (h : (dependencyAt here name v).Yields index a) :
    a.1 = name ∧
      ((∃ items names, v = .array items ∧ asStrings v = .ok names ∧ a.2 = .required names) ∨
        ∃ j, (∀ items, v ≠ .array items) ∧ a.2 = .schema j ∧
          index (here.below ["dependencies", name]) j) := by
  unfold dependencyAt at h
  cases v with
  | array items =>
      dsimp only at h
      cases hs : asStrings (.array items) with
      | error flaw =>
          rw [hs] at h
          exact absurd h (by rw [yields_failed]; exact id)
      | ok names =>
          rw [hs] at h
          rw [yields_pure.mp h]
          exact ⟨rfl, Or.inl ⟨items, names, rfl, rfl, rfl⟩⟩
  | object m =>
      obtain ⟨j, hj, h⟩ := yields_bind.mp h
      rw [yields_pure.mp h]
      exact ⟨rfl, Or.inr ⟨j, fun _ he => (nomatch he), rfl, yields_sub.mp hj⟩⟩
  | bool b =>
      obtain ⟨j, hj, h⟩ := yields_bind.mp h
      rw [yields_pure.mp h]
      exact ⟨rfl, Or.inr ⟨j, fun _ he => (nomatch he), rfl, yields_sub.mp hj⟩⟩
  | null => exact absurd h (by rw [yields_failed]; exact id)
  | number n => exact absurd h (by rw [yields_failed]; exact id)
  | string s => exact absurd h (by rw [yields_failed]; exact id)

theorem own?_eq (rules : ObjectRules) (name : String) :
    rules.own? name = (rules.properties.getD []).get? name := by
  unfold ObjectRules.own?
  cases rules.properties <;> rfl

/-- The entries of `patternProperties` for a name, on both sides. -/
theorem rel_matching {rules : ObjectRules}
    (h : (eachMember (patternPropertyAt here) here members "patternProperties").Yields index
      rules.patternProperties) (name : String) :
    List.Forall₂ (fun p a => a.1.text = p.1 ∧ index (here.below ["patternProperties", p.1]) a.2)
      (matching members name) (rules.matching name) := by
  have hentries := (yields_entries h).imp fun p a ha => yields_patternProperty ha
  have hfilter := List.rel_filter (p := fun p : String × Value =>
      (Pattern.ofText? p.1).any fun pattern => pattern.foundIn name)
    (q := fun a : Pattern × Nat => a.1.foundIn name)
    (fun p a ha => by
      show (Pattern.ofText? p.1).any _ = true ↔ _
      rw [ha.1, Option.any_some]) hentries
  exact hfilter.imp fun p a ha => ha.2

/-- The branches of `patternProperties` for a name. -/
theorem compiled_patternBranches {rules : ObjectRules}
    (h : (eachMember (patternPropertyAt here) here members "patternProperties").Yields index
      rules.patternProperties) (name : String) (v : Value) :
    List.Forall₂ (CompiledBranch here index)
      ((matching members name).map fun (text, _) =>
        branch here ["patternProperties", text] (some name) v)
      ((rules.matching name).map fun (pattern, j) =>
        ⟨["patternProperties", pattern.text], some name, j, v⟩) := by
  rw [List.forall₂_map_left_iff, List.forall₂_map_right_iff]
  refine (rel_matching h name).imp ?_
  intro p a ha
  obtain ⟨text, w⟩ := p
  obtain ⟨pattern, j⟩ := a
  obtain ⟨htext, hj⟩ := ha
  dsimp only at htext
  rw [← htext] at hj ⊢
  exact compiledBranch hj (some name) v

/-- The branch of `additionalProperties`, if it applies. -/
theorem compiled_additionalBranches {additionalProperties : Option Nat}
    (h : (schemaOf here members "additionalProperties").Yields index additionalProperties)
    (applies : Bool) (name : String) (v : Value) :
    List.Forall₂ (CompiledBranch here index)
      (if applies then (members.get? "additionalProperties").toList.map fun _ =>
        branch here ["additionalProperties"] (some name) v else [])
      (if applies then additionalProperties.toList.map fun j =>
        ⟨["additionalProperties"], some name, j, v⟩ else []) := by
  cases applies with
  | false => exact .nil
  | true =>
      have hb := yields_schemaOf h
      generalize members.get? "additionalProperties" = w at hb
      cases hb with
      | none => exact .nil
      | some hj => exact .cons (compiledBranch hj (some name) v) .nil

theorem compiled_memberBranches {rules : ObjectRules}
    (hp : (eachMember (propertyAt here) here members "properties").Yields index rules.properties)
    (hpp : (eachMember (patternPropertyAt here) here members "patternProperties").Yields index
      rules.patternProperties)
    (ha : (schemaOf here members "additionalProperties").Yields index rules.additionalProperties)
    (name : String) (v : Value) :
    List.Forall₂ (CompiledBranch here index) (memberBranches here members name v)
      (rules.memberBranches name v) := by
  have hmatching := rel_matching hpp name
  have hempty : (matching members name).isEmpty = (rules.matching name).isEmpty := by
    generalize matching members name = l at hmatching ⊢
    generalize rules.matching name = l' at hmatching ⊢
    cases hmatching <;> rfl
  have hpatterns := compiled_patternBranches hpp name v
  -- the names of `properties` are the same, in the same order
  have hown := rel_get? (R := fun name j => index (here.below ["properties", name]) j)
    ((yields_entries hp).imp fun p a ha => yields_property ha) name
  rw [← own?_eq] at hown
  unfold memberBranches ObjectRules.memberBranches ObjectRules.isAdditional
  rw [hempty]
  refine List.rel_append (List.rel_append ?_ hpatterns) ?_
  · cases hh : (entries members "properties").has name with
    | false =>
        rw [hh, if_neg Bool.false_ne_true] at hown
        rw [hown]
        exact .nil
    | true =>
        rw [hh, if_pos rfl] at hown
        obtain ⟨j, hj, hindex⟩ := hown
        rw [hj]
        exact .cons (compiledBranch hindex (some name) v) .nil
  · -- so `additionalProperties` applies to the same names
    have hnone : (!(entries members "properties").has name) = (rules.own? name).isNone := by
      cases hh : (entries members "properties").has name with
      | false =>
          rw [hh, if_neg Bool.false_ne_true] at hown
          rw [hown]
          rfl
      | true =>
          rw [hh, if_pos rfl] at hown
          obtain ⟨j, hj, _⟩ := hown
          rw [hj]
          rfl
    rw [hnone]
    exact compiled_additionalBranches ha _ name v

theorem compiled_dependency {name : String} {v : Value} {a : String × Dependency}
    (h : (dependencyAt here name v).Yields index a) (object : Members Value) :
    CompiledTasks here index (dependencyTasks here object name v)
      (ObjectRules.dependencyTasks object a.1 a.2) := by
  obtain ⟨hname, hd⟩ := yields_dependency h
  unfold dependencyTasks ObjectRules.dependencyTasks
  rw [hname]
  by_cases hn : object.has name = true
  · rw [if_pos hn, if_pos hn]
    -- a list of names was kept as it is, and a schema was compiled
    rcases hd with ⟨items, names, rfl, hs, ha⟩ | ⟨j, hv, ha, hj⟩
    · rw [ha]
      dsimp only
      rw [hs]
      exact compiled_require object _ names
    · rw [ha]
      cases v with
      | array items => exact absurd rfl (hv items)
      | _ => exact .cons (.descend (compiledBranch hj none (.object object))) .nil
  · rw [if_neg hn, if_neg hn]
    exact .nil

theorem compiled_object {rules : ObjectRules} (h : (objectRules here members).Yields index rules)
    (object : Members Value) :
    CompiledTasks here index (objectTasks here members object) (rules.tasks object) := by
  unfold objectRules at h
  simp only [yields_bind, yields_pure, yields_lift] at h
  obtain ⟨maxProperties, hmax, minProperties, hmin, required, hr, properties, hp,
    patternProperties, hpp, additionalProperties, ha, dependencies, hd, propertyNames, hn, rfl⟩ := h
  unfold objectTasks ObjectRules.tasks
  rw [given_of_optional hmax, given_of_optional hmin, given_of_optional hr]
  refine CompiledTasks.append (CompiledTasks.append (CompiledTasks.append (CompiledTasks.append
    ?_ ?_) ?_) ?_) ?_
  · exact .cons (.check _ _) (.cons (.check _ _) .nil)
  · exact compiled_require object _ _
  · refine List.rel_flatMap (List.forall₂_same.mpr fun p _ => rfl) ?_
    rintro p _ rfl
    exact compiled_descend (compiled_memberBranches hp hpp ha p.1 p.2)
  · exact List.rel_flatMap (yields_entries hd) fun p a ha => compiled_dependency ha object
  · have hb := yields_schemaOf hn
    generalize members.get? "propertyNames" = w at hb ⊢
    cases hb with
    | none => exact .nil
    | some hj =>
        rw [CompiledTasks, List.forall₂_map_left_iff, List.forall₂_map_right_iff,
          List.forall₂_same]
        exact fun p _ => .descend (compiledBranch hj (some p.1) (.string p.1))

/-! ## All keywords -/

theorem numberRules_eq {rules : NumberRules} (h : numberRules here members = .ok rules) :
    Direct.numberRules members = rules := by
  unfold numberRules at h
  obtain ⟨multipleOf, h₁, h⟩ := bind_eq_ok h
  obtain ⟨maximum, h₂, h⟩ := bind_eq_ok h
  obtain ⟨minimum, h₃, h⟩ := bind_eq_ok h
  obtain ⟨exclusiveMaximum, h₄, h⟩ := bind_eq_ok h
  obtain ⟨exclusiveMinimum, h₅, h⟩ := bind_eq_ok h
  cases h
  unfold Direct.numberRules
  rw [given_of_optional h₁, given_of_optional h₂, given_of_optional h₃, given_of_optional h₄,
    given_of_optional h₅]

theorem stringRules_eq {rules : StringRules} (h : stringRules here members = .ok rules) :
    Direct.stringRules members = rules := by
  unfold stringRules at h
  obtain ⟨maxLength, h₁, h⟩ := bind_eq_ok h
  obtain ⟨minLength, h₂, h⟩ := bind_eq_ok h
  obtain ⟨pattern, h₃, h⟩ := bind_eq_ok h
  cases h
  unfold Direct.stringRules
  rw [given_of_optional h₁, given_of_optional h₂, given_of_optional h₃]

/-- What reading the keywords of a schema yields: the same reference, and keywords with the tasks
that the schema has. -/
theorem compiled_keywords {k : Keywords} (h : (keywords here members).Yields index k) :
    given members "$ref" (asReference here.base) = k.ref ∧
      ∀ v, CompiledTasks here index (ownTasks here members v) (k.ownTasks v) := by
  unfold keywords at h
  simp only [yields_bind, yields_pure, yields_lift] at h
  obtain ⟨ref, href, types, htypes, enum, henum, combinators, hc, numbers, hn, strings, hs, arrays,
    ha, objects, ho, rfl⟩ := h
  refine ⟨given_of_optional href, fun v => ?_⟩
  obtain ⟨hnegated, hconditional, hlists⟩ := compiled_combinators hc v
  unfold ownTasks Keywords.ownTasks
  rw [given_of_optional htypes, given_of_optional henum]
  refine CompiledTasks.append (CompiledTasks.append (CompiledTasks.append (CompiledTasks.append
    (CompiledTasks.append hnegated hconditional) ?_) hlists) ?_) ?_
  · exact .cons (.check _ _) (.cons (.check _ _) .nil)
  · exact .cons (.check _ _) .nil
  · unfold Direct.shapedTasks Keywords.shapedTasks
    cases v with
    | null => exact .nil
    | bool b => exact .nil
    | number n =>
        rw [numberRules_eq hn]
        exact .cons (.check _ _) (.cons (.check _ _) (.cons (.check _ _) (.cons (.check _ _)
          (.cons (.check _ _) .nil))))
    | string s =>
        rw [stringRules_eq hs]
        exact .cons (.check _ _) (.cons (.check _ _) (.cons (.check _ _) .nil))
    | array items => exact compiled_array ha items
    | object object => exact compiled_object ho object

end Compile

end JsonSchema
