import JsonSchema.Proofs.Direct.Contents
import JsonSchema.Proofs.Evaluation.Children

/-!
# What can be done to a registry

Documents and schemas at places are compiled, which may fail half-way; nodes for truth values and
for mere references are added; references are linked. `Registry.after` is what a sequence of such
operations makes of the empty registry.

In a sound registry a node is the one that is found under its key, its sub-schemas come before it,
and its link is the index of the node with the key of its target.
-/

namespace JsonSchema

open Compile

/-! ## The sub-schemas that are read -/

section

variable {index : Target → Nat → Prop} {here : Target} {members : Members Value} {keyword : String}

/-- The index of some place. -/
def OfPlace (index : Target → Nat → Prop) (j : Nat) : Prop := ∃ place, index place j

theorem Facet.exists_of_mem {α : Type} {stands : Value → α → Prop} {facet : Option α}
    (h : Facet members keyword stands facet) {a : α} (ha : a ∈ facet) : ∃ v, stands v a := by
  unfold Facet at h
  rw [Option.mem_def.mp ha] at h
  generalize members.get? keyword = o at h
  cases h with
  | some hv => exact ⟨_, hv⟩

theorem mem_of_getD_nil {α : Type} {o : Option (List α)} {a : α} (h : a ∈ o.getD []) :
    ∃ l ∈ o, a ∈ l := by
  cases o with
  | none => exact absurd h List.not_mem_nil
  | some l => exact ⟨l, rfl, h⟩

theorem ofPlace_child {tokens : List String} {o : Option Nat}
    (h : Facet members keyword (Child index here tokens) o) {j : Nat} (hj : j ∈ o.toList) :
    OfPlace index j := by
  obtain ⟨_, hchild⟩ := h.exists_of_mem (Option.mem_toList.mp hj)
  exact ⟨_, hchild⟩

theorem Children.ofPlace {v : Value} {js : List Nat} (h : Children index here keyword v js)
    {j : Nat} (hj : j ∈ js) : OfPlace index j := by
  obtain ⟨_, _, hjs⟩ := h
  obtain ⟨_, hj⟩ := exists_of_mem_right hjs hj
  exact ⟨_, hj⟩

theorem ofPlace_children {o : Option (List Nat)}
    (h : Facet members keyword (Children index here keyword) o) {j : Nat} (hj : j ∈ o.getD []) :
    OfPlace index j := by
  obtain ⟨_, hl, hj⟩ := mem_of_getD_nil hj
  obtain ⟨_, hchildren⟩ := h.exists_of_mem hl
  exact hchildren.ofPlace hj

theorem exists_entry {α : Type} {entry : String → Value → α → Prop} {o : Option (List α)}
    (h : Facet members keyword (Entries entry) o) {a : α} (ha : a ∈ o.getD []) :
    ∃ name v, entry name v a := by
  obtain ⟨_, hl, ha⟩ := mem_of_getD_nil ha
  obtain ⟨_, _, _, hentries⟩ := h.exists_of_mem hl
  obtain ⟨_, hentry⟩ := exists_of_mem_right hentries ha
  exact ⟨_, _, hentry⟩

theorem CombinatorsOf.ofPlace {c : Combinators} (h : CombinatorsOf index here members c) {j : Nat}
    (hj : j ∈ c.children) : OfPlace index j := by
  unfold Combinators.children at hj
  simp only [List.mem_append] at hj
  rcases hj with (((((hj | hj) | hj) | hj) | hj) | hj) | hj
  · exact ofPlace_child h.negated hj
  · exact ofPlace_child h.condition hj
  · exact ofPlace_child h.onPass hj
  · exact ofPlace_child h.onFail hj
  · exact ofPlace_children h.allOf hj
  · exact ofPlace_children h.anyOf hj
  · exact ofPlace_children h.oneOf hj

theorem ItemsOf.ofPlace {v : Value} {items : Items} (h : ItemsOf index here v items) {j : Nat}
    (hj : j ∈ items.children) : OfPlace index j := by
  cases h with
  | all _ hchild =>
      rw [List.mem_singleton.mp hj]
      exact ⟨_, hchild⟩
  | positional hchildren => exact hchildren.ofPlace hj

theorem ArrayRulesOf.ofPlace {rules : ArrayRules} (h : ArrayRulesOf index here members rules)
    {j : Nat} (hj : j ∈ rules.children) : OfPlace index j := by
  unfold ArrayRules.children at hj
  simp only [List.mem_append] at hj
  rcases hj with (hj | hj) | hj
  · obtain ⟨_, hl, hj⟩ := mem_of_getD_nil hj
    obtain ⟨items, hitems, rfl⟩ := Option.map_eq_some_iff.mp hl
    obtain ⟨_, hform⟩ := h.items.exists_of_mem hitems
    exact hform.ofPlace hj
  · exact ofPlace_child h.additionalItems hj
  · exact ofPlace_child h.contains hj

theorem ObjectRulesOf.ofPlace {rules : ObjectRules} (h : ObjectRulesOf index here members rules)
    {j : Nat} (hj : j ∈ rules.children) : OfPlace index j := by
  unfold ObjectRules.children at hj
  simp only [List.mem_append] at hj
  rcases hj with (((hj | hj) | hj) | hj) | hj
  · obtain ⟨a, ha, rfl⟩ := List.mem_map.mp hj
    obtain ⟨_, _, _, hchild⟩ := exists_entry h.properties ha
    exact ⟨_, hchild⟩
  · obtain ⟨a, ha, rfl⟩ := List.mem_map.mp hj
    obtain ⟨_, _, _, hchild⟩ := exists_entry h.patternProperties ha
    exact ⟨_, hchild⟩
  · exact ofPlace_child h.additionalProperties hj
  · obtain ⟨a, ha, hj⟩ := List.mem_flatMap.mp hj
    obtain ⟨_, _, hentry⟩ := exists_entry h.dependencies ha
    cases hentry with
    | required _ => exact absurd hj List.not_mem_nil
    | schema _ hchild =>
        rw [List.mem_singleton.mp hj]
        exact ⟨_, hchild⟩
  · exact ofPlace_child h.propertyNames hj

/-- **Every sub-schema of a node that has been read has the index of its place.** -/
theorem ofPlace_of_yields {k : Keywords} (h : (keywords here members).Yields index k) {j : Nat}
    (hj : j ∈ k.children) : OfPlace index j := by
  unfold Compile.keywords at h
  simp only [Reading.yields_bind, Reading.yields_pure, Reading.yields_lift] at h
  obtain ⟨_, _, _, _, _, _, _, hc, _, _, _, _, _, ha, _, ho, rfl⟩ := h
  rcases List.mem_append.mp hj with hj | hj
  · rcases List.mem_append.mp hj with hj | hj
    · exact (combinatorsOf_of_yields hc).ofPlace hj
    · exact (arrayRulesOf_of_yields ha).ofPlace hj
  · exact (objectRulesOf_of_yields ho).ofPlace hj

end

namespace Registry

/-! ## Sound registries -/

/-- The registry can take the node: its sub-schemas are there, and its reference is not linked. -/
structure Takes (r : Registry) (node : Node) : Prop where
  children : ∀ k, node.body = .keywords k → ∀ j ∈ k.children, j < r.size
  unlinked : ∀ ref, node.ref? = some ref → ref.resolved = none

/-- Keys lead to nodes, sub-schemas come first, and links lead where references do. -/
structure Sound (r : Registry) : Prop where
  coherent : r.Coherent
  found : ∀ {i node}, r.get? i = some node → r.lookup node.uri = some i
  children : ∀ {i node k}, r.get? i = some node → node.body = .keywords k →
    ∀ j ∈ k.children, j < i
  linked : ∀ {i node ref j}, r.get? i = some node → node.ref? = some ref →
    ref.resolved = some j → r.lookup ref.target.key = some j

variable {r r' : Registry} {stands : Target → Value → Prop}

theorem sound_empty : Sound .empty where
  coherent := coherent_empty
  found h := nomatch h
  children h := nomatch h
  linked h := nomatch h

theorem Sound.push (h : r.Sound) {node : Node} (hnew : r.lookup node.uri = none)
    (ht : r.Takes node) : (r.push node).Sound where
  coherent := h.coherent.push node
  found := found_push h.found hnew
  children := by
    intro i other k hi hk j hj
    rw [get?_push] at hi
    by_cases hsize : i = r.size
    · rw [if_pos hsize] at hi
      cases hi
      have hlt := ht.children k hk j hj
      omega
    · rw [if_neg hsize] at hi
      exact h.children hi hk j hj
  linked := by
    intro i other ref j hi href hj
    rw [get?_push] at hi
    by_cases hsize : i = r.size
    · -- the new node has no link
      rw [if_pos hsize] at hi
      cases hi
      have hopen := ht.unlinked ref href
      rw [hopen] at hj
      exact nomatch hj
    · rw [if_neg hsize] at hi
      exact grows_push hnew _ _ (h.linked hi href hj)

theorem Sound.lt_size (h : r.Sound) {i j : Nat} {node : Node} {ref : Reference}
    (hn : r.get? i = some node) (href : node.ref? = some ref) (hj : ref.resolved = some j) :
    j < r.size := h.coherent.lt_size (h.linked hn href hj)

/-- A faithful registry is sound. -/
theorem Faithful.sound (h : r.Faithful stands) : r.Sound where
  coherent := h.coherent
  found := h.found
  linked := h.lookup_of_resolved
  children := by
    intro i node k hn hk j hj
    obtain ⟨here, v, _, _, hrep⟩ := h.compiled hn
    rw [hk] at hrep
    cases hrep with
    | keywords hyields _ =>
        obtain ⟨_, hlt, _⟩ := ofPlace_of_yields hyields hj
        exact hlt

/-- What can be read when the sub-schemas are there is taken. -/
theorem takes_of_readBelow {uri : String} {body : Body} (h : ReadBelow r.size body) :
    r.Takes { uri, body } := by
  cases h with
  | bool b => exact ⟨fun _ hk => (nomatch hk), fun _ href => (nomatch href)⟩
  | keywords hyields =>
      refine ⟨fun k hk j hj => ?_, fun ref href => resolved_of_yields hyields href⟩
      cases hk
      obtain ⟨_, hlt⟩ := ofPlace_of_yields hyields hj
      exact hlt

/-! ## Operations -/

/-- An operation on a registry. -/
inductive Operation where
  /-- A document is compiled. -/
  | compileRoot (document : Value)
  /-- The schema at a place is compiled. -/
  | compileAt (here : Target) (v : Value)
  /-- A truth value is added. -/
  | addBool (uri : String) (accepts : Bool)
  /-- A schema is added that consists of a reference. -/
  | addRef (uri : String) (target : Target)
  /-- References are linked. -/
  | link

/-- What an operation makes of a registry, whether it succeeds or not. -/
def Operation.apply (r : Registry) : Operation → Registry
  | compileRoot document => ((JsonSchema.compileRoot document).run r).2
  | compileAt here v => ((JsonSchema.compileAt here v).run r).2
  | addBool uri accepts => (r.add { uri, body := .bool accepts }).2
  | addRef uri target =>
    (r.add { uri, body := .keywords { ref := some { target, resolved := none } } }).2
  | link => r.link.2

/-- What operations make of the empty registry. -/
def after (operations : List Operation) : Registry := operations.foldl Operation.apply .empty

theorem adds_placed (here : Target) (v : Value) {r : Registry} (hr : r.Coherent) :
    Relation.ReflTransGen Adds r ((placed here v).run r).2 := by
  rw [run_placed]
  cases baseOf here v with
  | error e => exact .refl
  | ok base =>
      have hbuilds := (within_builds v.height { here with base } v hr).adds
      dsimp only
      generalize (within v.height { here with base } v).run r = p at hbuilds ⊢
      obtain ⟨answer, r'⟩ := p
      cases answer <;> exact hbuilds

/-- What is done with the answer of a compilation leaves the registry alone. -/
theorem snd_run_map {α β : Type} (m : Compile α) (f : α → β) (r : Registry) :
    ((f <$> m).run r).2 = (m.run r).2 := by
  show ((m >>= fun a => pure (f a)).run r).2 = _
  rw [run_bind]
  rcases m.run r with ⟨_ | _, r'⟩ <;> rfl

theorem takes_bool (r : Registry) (uri : String) (b : Bool) : r.Takes { uri, body := .bool b } :=
  takes_of_readBelow (.bool b)

theorem takes_ref (r : Registry) (uri : String) (target : Target) :
    r.Takes { uri, body := .keywords { ref := some { target, resolved := none } } } := by
  refine ⟨fun k hk j hj => ?_, fun ref href => ?_⟩
  · cases hk
    exact nomatch hj
  · cases href
    rfl

end Registry

end JsonSchema
