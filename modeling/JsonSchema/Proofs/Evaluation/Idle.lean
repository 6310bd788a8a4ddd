import JsonSchema.Proofs.Evaluation.Task

/-!
# Keywords that are absent

A node goes through all its tasks, whatever keywords it has. For those that are absent there is
either no task or the check of a condition that is met. So nothing comes of them.
-/

namespace JsonSchema

namespace Eval

/-- The task checks a condition that is met. -/
def Idle (task : Task Nat) : Prop := ∃ tokens, task = .check false tokens

theorem idle_checks (keywords : List String) :
    ∀ task ∈ keywords.map fun keyword => Task.check false [keyword], Idle task :=
  List.forall_mem_map.mpr fun keyword _ => ⟨[keyword], rfl⟩

theorem performAll_of_idle {σ : Site Nat} {tasks : List (Task Nat)} (h : ∀ task ∈ tasks, Idle task)
    (out : Violations) : σ.performAll tasks out = .ok out := by
  induction tasks with
  | nil => rfl
  | cons task rest ih =>
      rw [List.forall_mem_cons] at h
      obtain ⟨⟨tokens, rfl⟩, hrest⟩ := h
      rw [Site.performAll_cons]
      exact ih hrest

/-! ## The tasks that are left -/

/-- The number of members is all that is looked at, if no other keyword for objects is there. -/
theorem tasks_sizedObject (most least : Option Nat) (members : Members Value) :
    ObjectRules.tasks { maxProperties := most, minProperties := least } members =
      [.check (most.any (· < members.length)) ["maxProperties"],
        .check (least.any (members.length < ·)) ["minProperties"]] := by
  simp [ObjectRules.tasks, ObjectRules.memberBranches, ObjectRules.own?, ObjectRules.matching,
    requireTasks]

theorem tasks_bareObject (members : Members Value) : ObjectRules.tasks {} members =
    ["maxProperties", "minProperties"].map fun keyword => .check false [keyword] :=
  tasks_sizedObject none none members

/-- Without keywords for the kinds of values there is nothing to do, whatever kind the value is. -/
theorem idle_shaped {k : Keywords} (hn : k.numbers = {}) (hs : k.strings = {})
    (ha : k.arrays = {}) (ho : k.objects = {}) (v : Value) :
    ∀ task ∈ k.shapedTasks v, Idle task := by
  cases v with
  | null => exact List.forall_mem_nil _
  | bool b => exact List.forall_mem_nil _
  | number n =>
      show ∀ task ∈ k.numbers.tasks n, Idle task
      rw [hn]
      exact idle_checks
        ["multipleOf", "maximum", "minimum", "exclusiveMaximum", "exclusiveMinimum"]
  | string s =>
      show ∀ task ∈ k.strings.tasks s, Idle task
      rw [hs]
      exact idle_checks ["maxLength", "minLength", "pattern"]
  | array items =>
      show ∀ task ∈ k.arrays.tasks items, Idle task
      rw [ha]
      exact idle_checks ["maxItems", "minItems", "uniqueItems"]
  | object members =>
      show ∀ task ∈ k.objects.tasks members, Idle task
      rw [ho, tasks_bareObject]
      exact idle_checks _

/-- Some checks, and the tasks of the keywords for the kinds of values, which are absent. -/
theorem idle_append_shaped {k : Keywords} (hn : k.numbers = {}) (hs : k.strings = {})
    (ha : k.arrays = {}) (ho : k.objects = {}) (v : Value) (keywords : List String) :
    ∀ task ∈ keywords.map (fun keyword => Task.check false [keyword]) ++ k.shapedTasks v,
      Idle task :=
  List.forall_mem_append.mpr ⟨idle_checks keywords, idle_shaped hn hs ha ho v⟩

/-- Keywords that are absent have no violations. -/
theorem idle_of_bare {ref : Option Reference} {v : Value} {task : Task Nat}
    (h : task ∈ Keywords.ownTasks { ref } v) : Idle task := by
  have htasks : Keywords.ownTasks { ref } v =
      ["const", "enum", "type"].map (fun keyword => .check false [keyword]) ++
        ({ ref } : Keywords).shapedTasks v := rfl
  rw [htasks] at h
  exact idle_append_shaped rfl rfl rfl rfl v _ task h

end Eval

end JsonSchema
