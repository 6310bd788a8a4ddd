import JsonSchema.Proofs.Compilation.Operations

/-!
# Renumbering

A node refers to others by indices, so the same schema gives another node where the nodes around it
have other indices. `Node.renumber` puts one index for another. What has been read from a schema
with the indices in one registry is then what is read with those in another one, renumbered.
-/

namespace JsonSchema

/-! ## Renumbered nodes -/

section

variable (σ : Nat → Nat)

def Items.renumber : Items → Items
  | all j => all (σ j)
  | positional js => positional (js.map σ)

def Dependency.renumber : Dependency → Dependency
  | schema j => schema (σ j)
  | required names => required names

def Combinators.renumber (c : Combinators) : Combinators where
  negated := c.negated.map σ
  condition := c.condition.map σ
  onPass := c.onPass.map σ
  onFail := c.onFail.map σ
  allOf := c.allOf.map (List.map σ)
  anyOf := c.anyOf.map (List.map σ)
  oneOf := c.oneOf.map (List.map σ)

def ArrayRules.renumber (rules : ArrayRules) : ArrayRules :=
  { rules with
    items := rules.items.map (Items.renumber σ)
    additionalItems := rules.additionalItems.map σ
    contains := rules.contains.map σ }

def ObjectRules.renumber (rules : ObjectRules) : ObjectRules :=
  { rules with
    properties := rules.properties.map (List.map (Prod.map id σ))
    patternProperties := rules.patternProperties.map (List.map (Prod.map id σ))
    additionalProperties := rules.additionalProperties.map σ
    dependencies := rules.dependencies.map (List.map (Prod.map id (Dependency.renumber σ)))
    propertyNames := rules.propertyNames.map σ }

def Reference.renumber (ref : Reference) : Reference :=
  { ref with resolved := ref.resolved.map σ }

def Keywords.renumber (k : Keywords) : Keywords :=
  { k with
    ref := k.ref.map (Reference.renumber σ)
    combinators := k.combinators.renumber σ
    arrays := k.arrays.renumber σ
    objects := k.objects.renumber σ }

def Body.renumber : Body → Body
  | bool b => bool b
  | keywords k => keywords (k.renumber σ)

/-- The node with every index put through `σ`. -/
def Node.renumber (node : Node) : Node :=
  { node with body := node.body.renumber σ }

end

/-- The sub-schemas of a node, by their indices. -/
def Body.children : Body → List Nat
  | bool _ => []
  | keywords k => k.children

/-- The index that the reference is linked to, if it is. -/
def Body.links : Body → List Nat
  | bool _ => []
  | keywords k => (k.ref.bind Reference.resolved).toList

variable {σ : Nat → Nat}

/-! ## The sub-schemas of a renumbered node -/

theorem toList_map_option (o : Option Nat) : (o.map σ).toList = o.toList.map σ := by
  cases o <;> rfl

theorem getD_map_list {α β : Type} (f : α → β) (o : Option (List α)) :
    (o.map (List.map f)).getD [] = (o.getD []).map f := by
  cases o <;> rfl

theorem Items.children_renumber (items : Items) :
    (items.renumber σ).children = items.children.map σ := by
  cases items <;> rfl

theorem Dependency.children_renumber (d : Dependency) :
    (d.renumber σ).children = d.children.map σ := by
  cases d <;> rfl

theorem Combinators.children_renumber (c : Combinators) :
    (c.renumber σ).children = c.children.map σ := by
  simp only [Combinators.children, Combinators.renumber, toList_map_option, getD_map_list,
    List.map_append]

theorem ArrayRules.children_renumber (rules : ArrayRules) :
    (rules.renumber σ).children = rules.children.map σ := by
  have hitems : ((rules.items.map (Items.renumber σ)).map Items.children).getD [] =
      ((rules.items.map Items.children).getD []).map σ := by
    cases rules.items with
    | none => rfl
    | some items => exact items.children_renumber
  simp only [ArrayRules.children, ArrayRules.renumber, toList_map_option, hitems, List.map_append]

theorem ObjectRules.children_renumber (rules : ObjectRules) :
    (rules.renumber σ).children = rules.children.map σ := by
  have hdependents : (rules.renumber σ).dependents = rules.dependents.map σ := by
    simp only [dependents, renumber, getD_map_list, List.flatMap_map, List.map_flatMap]
    exact congrArg (List.flatMap · _) (funext fun p => p.2.children_renumber)
  simp only [ObjectRules.children, hdependents]
  simp only [ObjectRules.renumber, toList_map_option, getD_map_list, List.map_append, List.map_map]
  rfl

theorem Body.children_renumber (body : Body) :
    (body.renumber σ).children = body.children.map σ := by
  cases body with
  | bool b => rfl
  | keywords k =>
      show (k.renumber σ).children = k.children.map σ
      simp only [Keywords.children, Keywords.renumber, Combinators.children_renumber,
        ArrayRules.children_renumber, ObjectRules.children_renumber, List.map_append]

/-! ## Nodes that keep their indices -/

theorem map_option_eq_self {α : Type} {f : α → α} {o : Option α} (h : ∀ a ∈ o.toList, f a = a) :
    o.map f = o := by
  cases o with
  | none => rfl
  | some a => exact congrArg some (h a (List.mem_singleton.mpr rfl))

theorem map_list_eq_self {α : Type} {f : α → α} {o : Option (List α)}
    (h : ∀ a ∈ o.getD [], f a = a) : o.map (List.map f) = o := by
  cases o with
  | none => rfl
  | some l =>
      have hl : l.map f = l.map id := List.map_congr_left h
      rw [Option.map_some, hl, List.map_id]

theorem Combinators.renumber_eq_self {c : Combinators} (h : ∀ j ∈ c.children, σ j = j) :
    c.renumber σ = c := by
  simp only [children, List.forall_mem_append] at h
  obtain ⟨⟨⟨⟨⟨⟨hn, hc⟩, hp⟩, hf⟩, ha⟩, hy⟩, ho⟩ := h
  rw [renumber, map_option_eq_self hn, map_option_eq_self hc, map_option_eq_self hp,
    map_option_eq_self hf, map_list_eq_self ha, map_list_eq_self hy, map_list_eq_self ho]

theorem Items.renumber_eq_self {items : Items} (h : ∀ j ∈ items.children, σ j = j) :
    items.renumber σ = items := by
  cases items with
  | all j => rw [renumber, h j (List.mem_singleton.mpr rfl)]
  | positional js =>
      have hjs : js.map σ = js.map id := List.map_congr_left h
      rw [renumber, hjs, List.map_id]

theorem ArrayRules.renumber_eq_self {rules : ArrayRules} (h : ∀ j ∈ rules.children, σ j = j) :
    rules.renumber σ = rules := by
  simp only [children, List.forall_mem_append] at h
  obtain ⟨⟨hi, ha⟩, hc⟩ := h
  have hitems : rules.items.map (Items.renumber σ) = rules.items := by
    refine map_option_eq_self fun items hitems => Items.renumber_eq_self fun j hj => hi j ?_
    rw [Option.mem_toList.mp hitems]
    exact hj
  rw [renumber, hitems, map_option_eq_self ha, map_option_eq_self hc]

theorem Dependency.renumber_eq_self {d : Dependency} (h : ∀ j ∈ d.children, σ j = j) :
    d.renumber σ = d := by
  cases d with
  | schema j => rw [renumber, h j (List.mem_singleton.mpr rfl)]
  | required names => rfl

theorem ObjectRules.renumber_eq_self {rules : ObjectRules} (h : ∀ j ∈ rules.children, σ j = j) :
    rules.renumber σ = rules := by
  simp only [children, List.forall_mem_append, List.forall_mem_map, dependents,
    List.forall_mem_flatMap] at h
  obtain ⟨⟨⟨⟨hp, hpp⟩, ha⟩, hd⟩, hn⟩ := h
  have hproperties := map_list_eq_self (f := Prod.map id σ) fun p hmem =>
    Prod.ext rfl (hp p hmem)
  have hpatterns := map_list_eq_self (f := Prod.map id σ) fun p hmem =>
    Prod.ext rfl (hpp p hmem)
  have hdependencies := map_list_eq_self (f := Prod.map id (Dependency.renumber σ))
    fun p hmem => Prod.ext rfl (Dependency.renumber_eq_self (hd p hmem))
  rw [renumber, hproperties, hpatterns, map_option_eq_self ha, hdependencies,
    map_option_eq_self hn]

/-- A node that refers to none but indices which are kept stays as it is. -/
theorem Node.renumber_eq_self {node : Node} (hchildren : ∀ j ∈ node.body.children, σ j = j)
    (hlinks : ∀ j ∈ node.body.links, σ j = j) : node.renumber σ = node := by
  obtain ⟨uri, body⟩ := node
  cases body with
  | bool b => rfl
  | keywords k =>
      have hall : ∀ j ∈ k.combinators.children ++ k.arrays.children ++ k.objects.children,
          σ j = j := hchildren
      simp only [List.forall_mem_append] at hall
      obtain ⟨⟨hc, ha⟩, ho⟩ := hall
      have href : k.ref.map (Reference.renumber σ) = k.ref := by
        refine map_option_eq_self fun ref href => ?_
        have hresolved : ref.resolved.map σ = ref.resolved := by
          refine map_option_eq_self fun j hj => hlinks j ?_
          show j ∈ (k.ref.bind Reference.resolved).toList
          rw [Option.mem_toList.mp href]
          exact hj
        rw [Reference.renumber, hresolved]
      have hkeywords : k.renumber σ = k := by
        rw [Keywords.renumber, href, Combinators.renumber_eq_self hc,
          ArrayRules.renumber_eq_self ha, ObjectRules.renumber_eq_self ho]
      rw [renumber, Body.renumber, hkeywords]

/-! ## Reading with other indices -/

section

variable {index index' : Target → Nat → Prop} {here : Target} {members : Members Value}
  {keyword : String}

/-- Two facets of one keyword correspond if what its value stands for in both does. -/
theorem Facet.eq_map {α : Type} {stands stands' : Value → α → Prop} {f : α → α} {o o' : Option α}
    (h : Facet members keyword stands o) (h' : Facet members keyword stands' o')
    (hf : ∀ v a a', stands v a → stands' v a' → a' = f a) : o' = o.map f := by
  unfold Facet at h h'
  generalize members.get? keyword = w at h h'
  cases h with
  | none =>
      cases h'
      rfl
  | some ha =>
      cases h' with
      | some ha' => exact congrArg some (hf _ _ _ ha ha')

/-- Two lists correspond if their elements stand for the elements of one list. -/
theorem eq_map_of_forall₂ {α β : Type} {R R' : α → β → Prop} {f : β → β} {as : List α}
    {bs bs' : List β} (h : List.Forall₂ R as bs) (h' : List.Forall₂ R' as bs')
    (hf : ∀ a b b', R a b → R' a b' → b' = f b) : bs' = bs.map f := by
  induction h generalizing bs' with
  | nil =>
      cases h'
      rfl
  | cons hab _ ih =>
      cases h' with
      | cons hab' hrest => rw [List.map_cons, hf _ _ _ hab hab', ih hrest]

theorem Entries.eq_map {α : Type} {entry entry' : String → Value → α → Prop} {f : α → α}
    (hf : ∀ name v a a', entry name v a → entry' name v a' → a' = f a) (v : Value)
    (as as' : List α) (h : Entries entry v as) (h' : Entries entry' v as') : as' = as.map f := by
  obtain ⟨m, rfl, has⟩ := h
  obtain ⟨m', heq, has'⟩ := h'
  cases heq
  exact eq_map_of_forall₂ has has' fun p a a' ha ha' => hf p.1 p.2 a a' ha ha'

variable (hσ : ∀ place i j, index place i → index' place j → j = σ i)

include hσ

theorem Children.eq_map (v : Value) (js js' : List Nat) (h : Children index here keyword v js)
    (h' : Children index' here keyword v js') : js' = js.map σ := by
  obtain ⟨schemas, rfl, hjs⟩ := h
  obtain ⟨schemas', heq, hjs'⟩ := h'
  cases heq
  exact eq_map_of_forall₂ hjs hjs' fun _ _ _ hj hj' => hσ _ _ _ hj hj'

theorem ItemsOf.eq_renumber (v : Value) (items items' : Items) (h : ItemsOf index here v items)
    (h' : ItemsOf index' here v items') : items' = items.renumber σ := by
  cases h with
  | all hno hj =>
      cases h' with
      | all _ hj' => rw [Items.renumber, hσ _ _ _ hj hj']
      | positional hjs' =>
          obtain ⟨schemas, rfl, _⟩ := hjs'
          exact absurd rfl (hno schemas)
  | positional hjs =>
      cases h' with
      | all hno _ =>
          obtain ⟨schemas, rfl, _⟩ := hjs
          exact absurd rfl (hno schemas)
      | positional hjs' => rw [Items.renumber, Children.eq_map hσ v _ _ hjs hjs']

theorem PropertyOf.eq_renumber (name : String) (v : Value) (a a' : String × Nat)
    (h : PropertyOf index here name v a) (h' : PropertyOf index' here name v a') :
    a' = Prod.map id σ a :=
  Prod.ext (h'.1.trans h.1.symm) (hσ _ _ _ h.2 h'.2)

theorem PatternPropertyOf.eq_renumber (text : String) (v : Value) (a a' : Pattern × Nat)
    (h : PatternPropertyOf index here text v a) (h' : PatternPropertyOf index' here text v a') :
    a' = Prod.map id σ a :=
  Prod.ext (Option.some.inj (h'.1.symm.trans h.1)) (hσ _ _ _ h.2 h'.2)

theorem DependencyOf.eq_renumber (name : String) (v : Value) (a a' : String × Dependency)
    (h : DependencyOf index here name v a) (h' : DependencyOf index' here name v a') :
    a' = Prod.map id (Dependency.renumber σ) a := by
  cases h with
  | required hnames =>
      cases h' with
      | required hnames' =>
          have heq := Except.ok.inj (hnames'.symm.trans hnames)
          rw [heq]
          rfl
      | schema hno _ => exact absurd rfl (hno _)
  | schema hno hj =>
      cases h' with
      | required _ => exact absurd rfl (hno _)
      | schema _ hj' =>
          rw [hσ _ _ _ hj hj']
          rfl

theorem combinators_eq_renumber {c c' : Combinators}
    (h : (Compile.combinators here members).Yields index c)
    (h' : (Compile.combinators here members).Yields index' c') : c' = c.renumber σ := by
  have hc := combinatorsOf_of_yields h
  have hc' := combinatorsOf_of_yields h'
  have hone : ∀ {tokens : List String} (v : Value) (j j' : Nat),
      Child index here tokens v j → Child index' here tokens v j' → j' = σ j :=
    fun _ _ _ hj hj' => hσ _ _ _ hj hj'
  have hlist : ∀ {keyword : String} (v : Value) (js js' : List Nat),
      Children index here keyword v js → Children index' here keyword v js' → js' = js.map σ :=
    fun v js js' hjs hjs' => Children.eq_map hσ v js js' hjs hjs'
  obtain ⟨_, _, _, _, _, _, _⟩ := c'
  rw [Combinators.renumber, ← hc.negated.eq_map hc'.negated hone,
    ← hc.condition.eq_map hc'.condition hone, ← hc.onPass.eq_map hc'.onPass hone,
    ← hc.onFail.eq_map hc'.onFail hone, ← hc.allOf.eq_map hc'.allOf hlist,
    ← hc.anyOf.eq_map hc'.anyOf hlist, ← hc.oneOf.eq_map hc'.oneOf hlist]

theorem arrayRules_eq_renumber {rules rules' : ArrayRules}
    (h : (Compile.arrayRules here members).Yields index rules)
    (h' : (Compile.arrayRules here members).Yields index' rules') : rules' = rules.renumber σ := by
  unfold Compile.arrayRules at h h'
  simp only [Reading.yields_bind, Reading.yields_pure, Reading.yields_lift] at h h'
  obtain ⟨items, hi, additional, ha, maxItems, hmax, minItems, hmin, unique, hu, contains, hc,
    rfl⟩ := h
  obtain ⟨items', hi', additional', ha', maxItems', hmax', minItems', hmin', unique', hu',
    contains', hc', rfl⟩ := h'
  -- what has no schemas in it is read the same
  cases hmax.symm.trans hmax'
  cases hmin.symm.trans hmin'
  cases hu.symm.trans hu'
  have hitems := (facet_of_itemsOf hi).eq_map (facet_of_itemsOf hi') (ItemsOf.eq_renumber hσ)
  have hadditional := Facet.eq_map (Compile.yields_schemaOf ha) (Compile.yields_schemaOf ha')
    fun _ _ _ hj hj' => hσ _ _ _ hj hj'
  have hcontains := Facet.eq_map (Compile.yields_schemaOf hc) (Compile.yields_schemaOf hc')
    fun _ _ _ hj hj' => hσ _ _ _ hj hj'
  rw [hitems, hadditional, hcontains]
  rfl

theorem objectRules_eq_renumber {rules rules' : ObjectRules}
    (h : (Compile.objectRules here members).Yields index rules)
    (h' : (Compile.objectRules here members).Yields index' rules') :
    rules' = rules.renumber σ := by
  have ho := objectRulesOf_of_yields h
  have ho' := objectRulesOf_of_yields h'
  have hone : ∀ {tokens : List String} (v : Value) (j j' : Nat),
      Child index here tokens v j → Child index' here tokens v j' → j' = σ j :=
    fun _ _ _ hj hj' => hσ _ _ _ hj hj'
  have hproperties := ho.properties.eq_map ho'.properties
    (Entries.eq_map (PropertyOf.eq_renumber hσ))
  have hpatterns := ho.patternProperties.eq_map ho'.patternProperties
    (Entries.eq_map (PatternPropertyOf.eq_renumber hσ))
  have hadditional := ho.additionalProperties.eq_map ho'.additionalProperties hone
  have hdependencies := ho.dependencies.eq_map ho'.dependencies
    (Entries.eq_map (DependencyOf.eq_renumber hσ))
  have hnames := ho.propertyNames.eq_map ho'.propertyNames hone
  unfold Compile.objectRules at h h'
  simp only [Reading.yields_bind, Reading.yields_pure, Reading.yields_lift] at h h'
  obtain ⟨_, hmax, _, hmin, _, hr, _, _, _, _, _, _, _, _, _, _, rfl⟩ := h
  obtain ⟨_, hmax', _, hmin', _, hr', _, _, _, _, _, _, _, _, _, _, rfl⟩ := h'
  cases hmax.symm.trans hmax'
  cases hmin.symm.trans hmin'
  cases hr.symm.trans hr'
  dsimp only at hproperties hpatterns hadditional hdependencies hnames
  rw [hproperties, hpatterns, hadditional, hdependencies, hnames]
  rfl

/-- **Reading a schema with other indices** gives the same keywords renumbered. -/
theorem keywords_eq_renumber {k k' : Keywords}
    (h : (Compile.keywords here members).Yields index k)
    (h' : (Compile.keywords here members).Yields index' k') : k' = k.renumber σ := by
  have href : k.ref.map (Reference.renumber σ) = k.ref := by
    refine map_option_eq_self fun ref href => ?_
    have hopen := Compile.resolved_of_yields h (Option.mem_toList.mp href)
    rw [Reference.renumber, hopen]
    exact congrArg (Reference.mk ref.target) hopen.symm
  unfold Keywords.renumber
  rw [href]
  unfold Compile.keywords at h h'
  simp only [Reading.yields_bind, Reading.yields_pure, Reading.yields_lift] at h h'
  obtain ⟨_, hown, _, ht, _, he, _, hc, _, hn, _, hs, _, ha, _, ho, rfl⟩ := h
  obtain ⟨_, hown', _, ht', _, he', _, hc', _, hn', _, hs', _, ha', _, ho', rfl⟩ := h'
  cases hown.symm.trans hown'
  cases ht.symm.trans ht'
  cases he.symm.trans he'
  cases hn.symm.trans hn'
  cases hs.symm.trans hs'
  rw [combinators_eq_renumber hσ hc hc', arrayRules_eq_renumber hσ ha ha',
    objectRules_eq_renumber hσ ho ho']

end

namespace Registry

variable {r r' : Registry} {here : Target}

/-- What represents a schema and is not linked is what is read from it. -/
theorem Represents.yields {i : Nat} {members : Members Value} {k : Keywords}
    (h : r.Represents i here (.object members) (.keywords k))
    (hunlinked : ∀ ref, k.ref = some ref → ref.resolved = none) :
    (Compile.keywords here members).Yields (fun place j => r.lookup place.key = some j) k := by
  cases h with
  | @keywords _ _ own hk hl =>
      have hown : own = k.ref := by
        cases hkref : k.ref with
        | none =>
            rw [hkref] at hl
            cases hl
            rfl
        | some ref =>
            rw [hkref] at hl
            cases hl with
            | @some own' _ hfrom =>
                have hopen : own'.resolved = none := Compile.resolved_of_yields hk rfl
                have hopen' := hunlinked ref hkref
                obtain ⟨target, resolved⟩ := own'
                obtain ⟨target', resolved'⟩ := ref
                cases hopen
                cases hopen'
                exact congrArg (fun t => some (Reference.mk t none)) hfrom.target.symm
      rw [hown] at hk
      exact hk.mono fun _ _ hi => hi.2

/-- **Two nodes for one schema** in two registries are the same but for the indices. -/
theorem Represents.eq_renumber {i i' : Nat} {v : Value} {node node' : Node}
    (h : r.Represents i here v node.body) (h' : r'.Represents i' here v node'.body)
    (huri : node.uri = here.key) (huri' : node'.uri = here.key)
    (hopen : ∀ ref, node.ref? = some ref → ref.resolved = none)
    (hopen' : ∀ ref, node'.ref? = some ref → ref.resolved = none)
    (hσ : ∀ place : Target, ∀ j j', r.lookup place.key = some j →
      r'.lookup place.key = some j' → j' = σ j) : node' = node.renumber σ := by
  obtain ⟨uri, body⟩ := node
  obtain ⟨uri', body'⟩ := node'
  cases huri
  cases huri'
  cases v with
  | bool b =>
      cases h
      cases h'
      rfl
  | object members =>
      cases body with
      | bool b => cases h
      | keywords k =>
          cases body' with
          | bool b => cases h'
          | keywords k' =>
              have hk := h.yields fun ref href => hopen ref href
              have hk' := h'.yields fun ref href => hopen' ref href
              have heq := keywords_eq_renumber (fun place j j' => hσ place j j') hk hk'
              rw [heq]
              rfl
  | _ => cases h

end Registry

end JsonSchema
