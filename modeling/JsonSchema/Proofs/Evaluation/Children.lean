import JsonSchema.Proofs.Direct.Inside
import JsonSchema.Proofs.Evaluation.Task

/-!
# The children of a node

A node refers to its sub-schemas by their indices. Some of them are put the very value that the
node is put: those of the keywords that combine schemas, and the schemas in `dependencies`. All
others are put something smaller, which is an element, a member, or the name of a member.
-/

namespace JsonSchema

/-- The sub-schemas of `items`. -/
def Items.children : Items → List Nat
  | all j => [j]
  | positional js => js

/-- The sub-schemas of a member of `dependencies`. -/
def Dependency.children : Dependency → List Nat
  | schema j => [j]
  | required _ => []

/-- The sub-schemas of the keywords that combine schemas. -/
def Combinators.children (k : Combinators) : List Nat :=
  k.negated.toList ++ k.condition.toList ++ k.onPass.toList ++ k.onFail.toList ++
    k.allOf.getD [] ++ k.anyOf.getD [] ++ k.oneOf.getD []

/-- The sub-schemas of these keywords that are evaluated: `then` and `else` need an `if`. -/
def Combinators.evaluated (k : Combinators) : List Nat :=
  k.negated.toList ++
    (if k.condition.isSome then k.condition.toList ++ k.onPass.toList ++ k.onFail.toList else []) ++
    k.allOf.getD [] ++ k.anyOf.getD [] ++ k.oneOf.getD []

/-- The sub-schemas of the keywords that apply to arrays. -/
def ArrayRules.children (rules : ArrayRules) : List Nat :=
  (rules.items.map Items.children).getD [] ++ rules.additionalItems.toList ++
    rules.contains.toList

/-- The sub-schemas in `dependencies`. -/
def ObjectRules.dependents (rules : ObjectRules) : List Nat :=
  (rules.dependencies.getD []).flatMap fun (_, d) => d.children

/-- The sub-schemas of the keywords that apply to objects. -/
def ObjectRules.children (rules : ObjectRules) : List Nat :=
  (rules.properties.getD []).map Prod.snd ++ (rules.patternProperties.getD []).map Prod.snd ++
    rules.additionalProperties.toList ++ rules.dependents ++ rules.propertyNames.toList

namespace Keywords

/-- The sub-schemas of a node. -/
def children (k : Keywords) : List Nat :=
  k.combinators.children ++ k.arrays.children ++ k.objects.children

/-- The nodes that are put the very value that a node is put: where its reference leads, and the
sub-schemas of the keywords that combine schemas and of `dependencies`. -/
def inPlace (k : Keywords) : List Nat :=
  (k.ref.bind Reference.resolved).toList ++ k.combinators.evaluated ++ k.objects.dependents

/-- The branch leads to a child, and puts the same value in place or a smaller one. -/
structure Leads (k : Keywords) (v : Value) (b : Branch Nat) : Prop where
  child : b.schema ∈ k.children
  value : b.value = v ∧ b.schema ∈ k.inPlace ∨ b.value.height < v.height

end Keywords

/-- The task follows no reference, and all its branches have a property. -/
structure Task.Own (P : Branch Nat → Prop) (task : Task Nat) : Prop where
  follows : ∀ target schema v, task ≠ .follow target schema v
  branches : ∀ b ∈ task.branches, P b

namespace Task

variable {P : Branch Nat → Prop}

theorem own_check (violated : Bool) (tokens : List String) : (check violated tokens).Own P :=
  ⟨fun _ _ _ h => (nomatch h), List.forall_mem_nil _⟩

theorem own_descend {b : Branch Nat} (h : P b) : (descend b).Own P :=
  ⟨fun _ _ _ h => (nomatch h), List.forall_mem_singleton.mpr h⟩

theorem own_refute {b : Branch Nat} (h : P b) (tokens : List String) : (refute b tokens).Own P :=
  ⟨fun _ _ _ h => (nomatch h), List.forall_mem_singleton.mpr h⟩

theorem own_some {bs : List (Branch Nat)} (h : ∀ b ∈ bs, P b) (tokens : List String) :
    (some bs tokens).Own P :=
  ⟨fun _ _ _ h => (nomatch h), h⟩

theorem own_one {bs : List (Branch Nat)} (h : ∀ b ∈ bs, P b) (tokens : List String) :
    (one bs tokens).Own P :=
  ⟨fun _ _ _ h => (nomatch h), h⟩

theorem own_require (members : Members Value) (tokens names : List String) :
    ∀ task ∈ requireTasks members tokens names, task.Own P := by
  unfold requireTasks
  exact List.forall_mem_map.mpr fun _ _ => own_check _ _

end Task

namespace Keywords

variable {k : Keywords} {v : Value}

/-! ## Keywords that combine schemas -/

/-- A sub-schema of the keywords that combine schemas is put the same value. -/
theorem leads_combinator {j : Nat} (h : j ∈ k.combinators.evaluated) (tokens : List String)
    (token : Option String) : k.Leads v ⟨tokens, token, j, v⟩ := by
  refine ⟨?_, Or.inl ⟨rfl, ?_⟩⟩
  · have hchild : j ∈ k.combinators.children := by
      unfold Combinators.evaluated at h
      unfold Combinators.children
      split at h <;> simp only [List.mem_append] at h ⊢ <;> tauto
    exact List.mem_append_left _ (List.mem_append_left _ hchild)
  · exact List.mem_append_left _ (List.mem_append_right _ h)

theorem leads_listBranches {keyword : String} {schemas : List Nat}
    (h : ∀ j ∈ schemas, j ∈ k.combinators.evaluated) :
    ∀ b ∈ Combinators.listBranches keyword schemas v, k.Leads v b := by
  intro b hb
  obtain ⟨⟨j, i⟩, hp, rfl⟩ := List.mem_map.mp hb
  exact leads_combinator (h j (List.fst_mem_of_mem_zipIdx hp)) _ _

theorem own_negated : ∀ task ∈ k.combinators.negatedTasks v, task.Own (k.Leads v) := by
  unfold Combinators.negatedTasks
  cases hn : k.combinators.negated with
  | none => exact List.forall_mem_nil _
  | some i =>
      have hi : i ∈ k.combinators.evaluated := by simp [Combinators.evaluated, hn]
      exact List.forall_mem_singleton.mpr (Task.own_refute (leads_combinator hi _ _) _)

theorem own_conditional : ∀ task ∈ k.combinators.conditionalTasks v, task.Own (k.Leads v) := by
  unfold Combinators.conditionalTasks
  cases hc : k.combinators.condition with
  | none => exact List.forall_mem_nil _
  | some i =>
      refine List.forall_mem_singleton.mpr ⟨fun _ _ _ h => (nomatch h), fun b hb => ?_⟩
      have hlead : ∀ j, j = i ∨ j ∈ k.combinators.onPass ∨ j ∈ k.combinators.onFail →
          j ∈ k.combinators.evaluated := by
        intro j hj
        simp only [Combinators.evaluated, hc, Option.isSome_some, if_true, List.mem_append,
          Option.mem_toList]
        tauto
      rcases List.mem_cons.mp hb with rfl | hb
      · exact leads_combinator (hlead i (Or.inl rfl)) _ _
      · rcases List.mem_append.mp hb with hb | hb
        · obtain ⟨j, hj, rfl⟩ := Option.map_eq_some_iff.mp (Option.mem_toList.mp hb)
          exact leads_combinator (hlead j (Or.inr (Or.inl hj))) _ _
        · obtain ⟨j, hj, rfl⟩ := Option.map_eq_some_iff.mp (Option.mem_toList.mp hb)
          exact leads_combinator (hlead j (Or.inr (Or.inr hj))) _ _

theorem own_lists : ∀ task ∈ k.combinators.listTasks v, task.Own (k.Leads v) := by
  unfold Combinators.listTasks
  refine List.forall_mem_append.mpr ⟨List.forall_mem_append.mpr ⟨?_, ?_⟩, ?_⟩
  · refine List.forall_mem_map.mpr fun b hb => Task.own_descend (leads_listBranches ?_ b hb)
    intro j hj
    simp only [Combinators.evaluated, List.mem_append]
    tauto
  · cases ha : k.combinators.anyOf with
    | none => exact List.forall_mem_nil _
    | some schemas =>
        refine List.forall_mem_singleton.mpr (Task.own_some (leads_listBranches ?_) _)
        intro j hj
        simp only [Combinators.evaluated, ha, Option.getD_some, List.mem_append]
        tauto
  · cases ho : k.combinators.oneOf with
    | none => exact List.forall_mem_nil _
    | some schemas =>
        refine List.forall_mem_singleton.mpr (Task.own_one (leads_listBranches ?_) _)
        intro j hj
        simp only [Combinators.evaluated, ho, Option.getD_some, List.mem_append]
        tauto

/-! ## Arrays -/

/-- A sub-schema of the keywords that apply to arrays is put an element. -/
theorem leads_element {items : List Value} {j i : Nat} {w : Value} (h : j ∈ k.arrays.children)
    (hw : (w, i) ∈ items.zipIdx) (tokens : List String) (token : Option String) :
    k.Leads (.array items) ⟨tokens, token, j, w⟩ := by
  refine ⟨?_, Or.inr (Value.height_lt_of_mem_items (List.fst_mem_of_mem_zipIdx hw))⟩
  exact List.mem_append_left _ (List.mem_append_right _ h)

theorem leads_elementBranches {items : List Value} :
    ∀ b ∈ k.arrays.elementBranches items, k.Leads (.array items) b := by
  intro b hb
  unfold ArrayRules.elementBranches at hb
  cases hi : k.arrays.items with
  | none => rw [hi] at hb; exact absurd hb List.not_mem_nil
  | some form =>
      rw [hi] at hb
      have hform : ∀ j ∈ form.children, j ∈ k.arrays.children := by
        intro j hj
        simp only [ArrayRules.children, hi, Option.map_some, Option.getD_some, List.mem_append]
        tauto
      cases form with
      | all j =>
          obtain ⟨⟨w, i⟩, hw, rfl⟩ := List.mem_map.mp hb
          exact leads_element (hform j List.mem_cons_self) hw _ _
      | positional schemas =>
          rcases List.mem_append.mp hb with hb | hb
          · obtain ⟨⟨⟨j, w⟩, i⟩, hp, rfl⟩ := List.mem_map.mp hb
            have hpair := List.getElem?_zip_eq_some.mp (List.mem_zipIdx_iff_getElem?.mp hp)
            exact leads_element (hform j (List.mem_of_getElem? hpair.1))
              (List.mem_zipIdx_iff_getElem?.mpr hpair.2) _ _
          · obtain ⟨⟨w, i⟩, hw, hb⟩ := List.mem_flatMap.mp hb
            obtain ⟨j, hj, rfl⟩ := List.mem_map.mp hb
            have hj : j ∈ k.arrays.children := by
              simp only [ArrayRules.children, List.mem_append]
              tauto
            exact leads_element hj (List.mem_of_mem_drop hw) _ _

theorem own_array (items : List Value) :
    ∀ task ∈ k.arrays.tasks items, task.Own (k.Leads (.array items)) := by
  unfold ArrayRules.tasks
  refine List.forall_mem_append.mpr ⟨List.forall_mem_append.mpr ⟨?_, ?_⟩, ?_⟩
  · exact List.forall_mem_map.mpr fun b hb => Task.own_descend (leads_elementBranches b hb)
  · simp only [List.forall_mem_cons, Task.own_check, true_and]
    exact List.forall_mem_nil _
  · cases hc : k.arrays.contains with
    | none => exact List.forall_mem_nil _
    | some j =>
        have hj : j ∈ k.arrays.children := by simp [ArrayRules.children, hc]
        refine List.forall_mem_singleton.mpr (Task.own_some (List.forall_mem_map.mpr ?_) _)
        exact fun p hp => leads_element hj hp _ _

/-! ## Objects -/

/-- A sub-schema of the keywords that apply to objects may be put a member. -/
theorem leads_member {members : Members Value} {name : String} {w : Value} {j : Nat}
    (h : j ∈ k.objects.children) (hw : (name, w) ∈ members) (tokens : List String)
    (token : Option String) : k.Leads (.object members) ⟨tokens, token, j, w⟩ :=
  ⟨List.mem_append_right _ h, Or.inr (Value.height_lt_of_mem_members hw)⟩

theorem leads_memberBranches {members : Members Value} {name : String} {w : Value}
    (hw : (name, w) ∈ members) :
    ∀ b ∈ k.objects.memberBranches name w, k.Leads (.object members) b := by
  have hchild : ∀ j, j ∈ (k.objects.properties.getD []).map Prod.snd ∨
      j ∈ (k.objects.patternProperties.getD []).map Prod.snd ∨
      j ∈ k.objects.additionalProperties.toList → j ∈ k.objects.children := by
    intro j hj
    simp only [ObjectRules.children, List.mem_append]
    tauto
  intro b hb
  unfold ObjectRules.memberBranches at hb
  rcases List.mem_append.mp hb with hb | hb
  · rcases List.mem_append.mp hb with hb | hb
    · obtain ⟨j, hj, rfl⟩ := List.mem_map.mp hb
      obtain ⟨properties, hp, hget⟩ := Option.bind_eq_some_iff.mp (Option.mem_toList.mp hj)
      refine leads_member (hchild j (Or.inl ?_)) hw _ _
      rw [hp]
      exact List.mem_map.mpr ⟨_, Members.mem_of_get? hget, rfl⟩
    · obtain ⟨p, hp, rfl⟩ := List.mem_map.mp hb
      refine leads_member (hchild _ (Or.inr (Or.inl ?_))) hw _ _
      exact List.mem_map.mpr ⟨p, List.mem_of_mem_filter hp, rfl⟩
  · split at hb
    · obtain ⟨j, hj, rfl⟩ := List.mem_map.mp hb
      exact leads_member (hchild j (Or.inr (Or.inr hj))) hw _ _
    · exact absurd hb List.not_mem_nil

theorem own_dependency {members : Members Value} {name : String} {d : Dependency}
    (hd : (name, d) ∈ k.objects.dependencies.getD []) :
    ∀ task ∈ ObjectRules.dependencyTasks members name d, task.Own (k.Leads (.object members)) := by
  unfold ObjectRules.dependencyTasks
  split
  · cases d with
    | required names => exact Task.own_require _ _ _
    | schema j =>
        have hj : j ∈ k.objects.dependents := List.mem_flatMap.mpr ⟨_, hd, List.mem_cons_self⟩
        refine List.forall_mem_singleton.mpr (Task.own_descend ⟨?_, Or.inl ⟨rfl, ?_⟩⟩)
        · refine List.mem_append_right _ ?_
          simp only [ObjectRules.children, List.mem_append]
          tauto
        · exact List.mem_append_right _ hj
  · exact List.forall_mem_nil _

theorem own_object (members : Members Value) :
    ∀ task ∈ k.objects.tasks members, task.Own (k.Leads (.object members)) := by
  unfold ObjectRules.tasks
  refine List.forall_mem_append.mpr ⟨List.forall_mem_append.mpr ⟨List.forall_mem_append.mpr
    ⟨List.forall_mem_append.mpr ⟨?_, Task.own_require _ _ _⟩, ?_⟩, ?_⟩, ?_⟩
  · simp only [List.forall_mem_cons, Task.own_check, true_and]
    exact List.forall_mem_nil _
  · refine List.forall_mem_flatMap.mpr fun p hp => List.forall_mem_map.mpr fun b hb => ?_
    exact Task.own_descend (leads_memberBranches hp b hb)
  · exact List.forall_mem_flatMap.mpr fun p hp => own_dependency hp
  · cases hn : k.objects.propertyNames with
    | none => exact List.forall_mem_nil _
    | some j =>
        refine List.forall_mem_map.mpr fun p hp => Task.own_descend ⟨?_, Or.inr ?_⟩
        · refine List.mem_append_right _ ?_
          simp [ObjectRules.children, hn]
        · -- a name is no part of the object, but as a string it is lower than any member
          have hlt := Value.height_lt_of_mem_members hp
          have hname : (Value.string p.1).height = 0 := rfl
          exact Nat.lt_of_le_of_lt (hname ▸ Nat.zero_le _) hlt

/-! ## All keywords -/

/-- **The branches of a node lead to its children**, with the same value in place or with a smaller
one, and no task but that of `$ref` follows a reference. -/
theorem own_ownTasks (k : Keywords) (v : Value) : ∀ task ∈ k.ownTasks v, task.Own (k.Leads v) := by
  unfold ownTasks
  refine List.forall_mem_append.mpr ⟨List.forall_mem_append.mpr ⟨List.forall_mem_append.mpr
    ⟨List.forall_mem_append.mpr ⟨List.forall_mem_append.mpr ⟨own_negated, own_conditional⟩, ?_⟩,
    own_lists⟩, ?_⟩, ?_⟩
  · simp only [List.forall_mem_cons, Task.own_check, true_and]
    exact List.forall_mem_nil _
  · exact List.forall_mem_singleton.mpr (Task.own_check _ _)
  · unfold shapedTasks
    cases v with
    | null => exact List.forall_mem_nil _
    | bool b => exact List.forall_mem_nil _
    | number n =>
        simp only [NumberRules.tasks, List.forall_mem_cons, Task.own_check, true_and]
        exact List.forall_mem_nil _
    | string s =>
        simp only [StringRules.tasks, List.forall_mem_cons, Task.own_check, true_and]
        exact List.forall_mem_nil _
    | array items => exact own_array items
    | object members => exact own_object members

end Keywords

end JsonSchema
