import JsonSchema.Proofs.Evaluation.Moments

/-!
# Trials

Where only the verdict of a schema matters, it is put on trial. This happens to the sub-schemas of
`not`, `if`, `anyOf`, `oneOf` and `contains`. Everything else is evaluated for real.
-/

namespace JsonSchema

variable {ι : Type}

/-- The branches that a task puts on trial. -/
def Task.trials : Task ι → List (Branch ι)
  | check _ _ => []
  | descend _ => []
  | follow _ _ _ => []
  | choose condition _ _ => [condition]
  | refute b _ => [b]
  | some bs _ => bs
  | one bs _ => bs

/-- The sub-schemas of a node that are put on trial. -/
def Keywords.trials (k : Keywords) : List Nat :=
  k.combinators.negated.toList ++ k.combinators.condition.toList ++
    k.combinators.anyOf.getD [] ++ k.combinators.oneOf.getD [] ++ k.arrays.contains.toList

theorem Site.Starts.mem_trials {site : Site ι} {task : Task ι} {b : Branch ι}
    (h : site.Starts task b true) : b ∈ task.trials := by
  cases h with
  | condition => exact List.mem_cons_self
  | refute => exact List.mem_cons_self
  | some _ h => exact h.mem
  | one _ h => exact h.mem

namespace Keywords

variable {k : Keywords} {v : Value}

/-- The tasks hold no trial. -/
def Quiet (tasks : List (Task Nat)) : Prop := ∀ task ∈ tasks, task.trials = []

theorem quiet_descend (bs : List (Branch Nat)) : Quiet (bs.map .descend) :=
  List.forall_mem_map.mpr fun _ _ => rfl

theorem quiet_require (members : Members Value) (tokens names : List String) :
    Quiet (requireTasks members tokens names) := List.forall_mem_map.mpr fun _ _ => rfl

theorem Quiet.append {l l' : List (Task Nat)} (h : Quiet l) (h' : Quiet l') : Quiet (l ++ l') :=
  List.forall_mem_append.mpr ⟨h, h'⟩

theorem quiet_number (rules : NumberRules) (n : Number) : Quiet (rules.tasks n) := by
  simp [Quiet, NumberRules.tasks, Task.trials]

theorem quiet_string (rules : StringRules) (s : String) : Quiet (rules.tasks s) := by
  simp [Quiet, StringRules.tasks, Task.trials]

theorem quiet_dependency (members : Members Value) (name : String) (d : Dependency) :
    Quiet (ObjectRules.dependencyTasks members name d) := by
  unfold ObjectRules.dependencyTasks
  split
  · cases d with
    | schema j => exact quiet_descend [_]
    | required names => exact quiet_require members _ names
  · exact List.forall_mem_nil _

theorem quiet_object (rules : ObjectRules) (members : Members Value) :
    Quiet (rules.tasks members) := by
  unfold ObjectRules.tasks
  refine Quiet.append (Quiet.append (Quiet.append (Quiet.append ?_ (quiet_require _ _ _)) ?_) ?_) ?_
  · simp [Quiet, Task.trials]
  · exact List.forall_mem_flatMap.mpr fun p _ => quiet_descend _
  · exact List.forall_mem_flatMap.mpr fun p _ => quiet_dependency members p.1 p.2
  · split
    · exact List.forall_mem_nil _
    · exact List.forall_mem_map.mpr fun _ _ => rfl

theorem schema_mem_of_listBranches {keyword : String} {schemas : List Nat} {b : Branch Nat}
    (h : b ∈ Combinators.listBranches keyword schemas v) : b.schema ∈ schemas := by
  obtain ⟨p, hp, rfl⟩ := List.mem_map.mp h
  exact List.fst_mem_of_mem_zipIdx hp

theorem trials_combinators {task : Task Nat} {b : Branch Nat} (hb : b ∈ task.trials)
    (h : task ∈ k.combinators.negatedTasks v ∨ task ∈ k.combinators.conditionalTasks v ∨
      task ∈ k.combinators.listTasks v) : b.schema ∈ k.trials := by
  simp only [trials, List.mem_append]
  rcases h with h | h | h
  · unfold Combinators.negatedTasks at h
    cases hn : k.combinators.negated with
    | none => rw [hn] at h; exact absurd h List.not_mem_nil
    | some i =>
        rw [hn] at h
        rw [List.mem_singleton.mp h] at hb
        rw [List.mem_singleton.mp hb]
        simp
  · unfold Combinators.conditionalTasks at h
    cases hc : k.combinators.condition with
    | none => rw [hc] at h; exact absurd h List.not_mem_nil
    | some i =>
        rw [hc] at h
        rw [List.mem_singleton.mp h] at hb
        rw [List.mem_singleton.mp hb]
        simp
  · unfold Combinators.listTasks at h
    rcases List.mem_append.mp h with h | h
    · rcases List.mem_append.mp h with h | h
      · rw [quiet_descend _ task h] at hb
        exact absurd hb List.not_mem_nil
      · cases ha : k.combinators.anyOf with
        | none => rw [ha] at h; exact absurd h List.not_mem_nil
        | some schemas =>
            rw [ha] at h
            rw [List.mem_singleton.mp h] at hb
            have hmem := schema_mem_of_listBranches hb
            simp [hmem]
    · cases ho : k.combinators.oneOf with
      | none => rw [ho] at h; exact absurd h List.not_mem_nil
      | some schemas =>
          rw [ho] at h
          rw [List.mem_singleton.mp h] at hb
          have hmem := schema_mem_of_listBranches hb
          simp [hmem]

theorem trials_array {items : List Value} {task : Task Nat} {b : Branch Nat} (hb : b ∈ task.trials)
    (h : task ∈ k.arrays.tasks items) : b.schema ∈ k.trials := by
  unfold ArrayRules.tasks at h
  rcases List.mem_append.mp h with h | h
  · have hquiet : Quiet ((k.arrays.elementBranches items).map .descend ++
        [.check (k.arrays.maxItems.any (· < items.length)) ["maxItems"],
          .check (k.arrays.minItems.any (items.length < ·)) ["minItems"],
          .check (k.arrays.uniqueItems && Value.hasDuplicate items) ["uniqueItems"]]) := by
      refine (quiet_descend _).append ?_
      simp [Quiet, Task.trials]
    rw [hquiet task h] at hb
    exact absurd hb List.not_mem_nil
  · cases hc : k.arrays.contains with
    | none => rw [hc] at h; exact absurd h List.not_mem_nil
    | some j =>
        rw [hc] at h
        rw [List.mem_singleton.mp h] at hb
        obtain ⟨p, _, rfl⟩ := List.mem_map.mp hb
        simp [trials, hc]

/-- Only sub-schemas of five keywords are put on trial. -/
theorem trials_ownTasks {task : Task Nat} {b : Branch Nat} (h : task ∈ k.ownTasks v)
    (hb : b ∈ task.trials) : b.schema ∈ k.trials := by
  have hquiet : ∀ {l : List (Task Nat)}, Quiet l → task ∈ l → b.schema ∈ k.trials := by
    intro l hl htask
    rw [hl task htask] at hb
    exact absurd hb List.not_mem_nil
  unfold ownTasks at h
  simp only [List.mem_append] at h
  rcases h with ((((h | h) | h) | h) | h) | h
  · exact trials_combinators hb (Or.inl h)
  · exact trials_combinators hb (Or.inr (Or.inl h))
  · exact hquiet (by simp [Quiet, Task.trials]) h
  · exact trials_combinators hb (Or.inr (Or.inr h))
  · exact hquiet (by simp [Quiet, Task.trials]) h
  · unfold shapedTasks at h
    cases v with
    | null => exact absurd h List.not_mem_nil
    | bool _ => exact absurd h List.not_mem_nil
    | number n => exact hquiet (quiet_number _ n) h
    | string s => exact hquiet (quiet_string _ s) h
    | array items => exact trials_array hb h
    | object members => exact hquiet (quiet_object _ members) h

end Keywords

end JsonSchema
