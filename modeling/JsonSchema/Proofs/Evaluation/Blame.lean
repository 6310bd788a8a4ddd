import JsonSchema.Proofs.Direct.Distinct
import JsonSchema.Proofs.Direct.Inside
import JsonSchema.Proofs.Evaluation.Calls

/-!
# What a task reports, and which values it puts

A keyword that reports violations itself asks something of the value, and what it asks is not met
when a task reports the keyword. Where a list of names is required there is a task for each name,
and the entry of the name is reported. The other keywords leave it to their sub-schemas to report.

To a sub-schema a task puts the same value, or a part of the value along with the token that leads
to it, or the name of a member, for which the token leads to the member.
-/

namespace JsonSchema

/-- What a keyword that reports violations itself asks of a value. -/
inductive Keywords.Asks (k : Keywords) : String → Value → Demand → Prop
  | const {c v : Value} : k.const = some c → Asks k "const" v (.holds (c.same v))
  | enum {values : List Value} {v : Value} : k.enum = some values →
      Asks k "enum" v (.holds (values.any fun c => c.same v))
  | type {types : List TypeName} {v : Value} : k.types = some types →
      Asks k "type" v (.holds (types.any fun t => t.accepts v))
  | not {i : Nat} {v : Value} : k.combinators.negated = some i →
      Asks k "not" v (.negation (.schema i v))
  | anyOf {schemas : List Nat} {v : Value} : k.combinators.anyOf = some schemas →
      Asks k "anyOf" v (.some (schemas.map (.schema · v)))
  | oneOf {schemas : List Nat} {v : Value} : k.combinators.oneOf = some schemas →
      Asks k "oneOf" v (.one (schemas.map (.schema · v)))
  | multipleOf {m : Double} {n : Number} : k.numbers.multipleOf = some m →
      Asks k "multipleOf" (.number n) (.holds (!Eval.missesMultiple n.toDouble m))
  | maximum {m : Double} {n : Number} : k.numbers.maximum = some m →
      Asks k "maximum" (.number n) (.holds (n.toDouble.units ≤ m.units))
  | minimum {m : Double} {n : Number} : k.numbers.minimum = some m →
      Asks k "minimum" (.number n) (.holds (m.units ≤ n.toDouble.units))
  | exclusiveMaximum {m : Double} {n : Number} : k.numbers.exclusiveMaximum = some m →
      Asks k "exclusiveMaximum" (.number n) (.holds (n.toDouble.units < m.units))
  | exclusiveMinimum {m : Double} {n : Number} : k.numbers.exclusiveMinimum = some m →
      Asks k "exclusiveMinimum" (.number n) (.holds (m.units < n.toDouble.units))
  | maxLength {n : Nat} {s : String} : k.strings.maxLength = some n →
      Asks k "maxLength" (.string s) (.holds (s.length ≤ n))
  | minLength {n : Nat} {s : String} : k.strings.minLength = some n →
      Asks k "minLength" (.string s) (.holds (n ≤ s.length))
  | pattern {p : Pattern} {s : String} : k.strings.pattern = some p →
      Asks k "pattern" (.string s) (.holds (p.foundIn s))
  | maxItems {n : Nat} {items : List Value} : k.arrays.maxItems = some n →
      Asks k "maxItems" (.array items) (.holds (items.length ≤ n))
  | minItems {n : Nat} {items : List Value} : k.arrays.minItems = some n →
      Asks k "minItems" (.array items) (.holds (n ≤ items.length))
  | uniqueItems {items : List Value} : k.arrays.uniqueItems = true →
      Asks k "uniqueItems" (.array items) (.holds (!Value.hasDuplicate items))
  | contains {j : Nat} {items : List Value} : k.arrays.contains = some j →
      Asks k "contains" (.array items) (.some (items.map (.schema j ·)))
  | maxProperties {n : Nat} {members : Members Value} : k.objects.maxProperties = some n →
      Asks k "maxProperties" (.object members) (.holds (members.length ≤ n))
  | minProperties {n : Nat} {members : Members Value} : k.objects.minProperties = some n →
      Asks k "minProperties" (.object members) (.holds (n ≤ members.length))

/-- What the keywords of a node report of a value: a keyword that asks for something else, or the
entry of a name that an object has not. -/
inductive Keywords.Blamed (registry : Registry) (k : Keywords) : Value → List String → Prop
  | keyword {keyword : String} {v : Value} {demand : Demand} : k.Asks keyword v demand →
      Verdict registry demand false → Blamed registry k v [keyword]
  | required {object : Members Value} {names : List String} {name : String} {n : Nat} :
      k.objects.required = some names → names[n]? = some name → object.has name = false →
      Blamed registry k (.object object) ["required", toString n]
  | dependency {object : Members Value} {dependencies : List (String × Dependency)}
      {owner name : String} {names : List String} {n : Nat} :
      k.objects.dependencies = some dependencies → (owner, .required names) ∈ dependencies →
      object.has owner = true → names[n]? = some name → object.has name = false →
      Blamed registry k (.object object) ["dependencies", owner, toString n]

/-- What may be put to a sub-schema when the value is at hand, and the token that leads to it. -/
inductive Value.Puts : Value → Option String → Value → Prop
  | same {v : Value} : Puts v none v
  | part {v w : Value} {token : String} : Pointer.step v token = some w → Puts v (some token) w
  | name {members : Members Value} {name : String} : members.has name = true →
      Puts (.object members) (some name) (.string name)

/-- The task puts and reports what a node with these keywords may put and report. -/
structure Task.Suits (registry : Registry) (k : Keywords) (v : Value) (task : Task Nat) : Prop where
  puts : ∀ b ∈ task.branches, v.Puts b.token b.value
  reports : ∀ tokens, task.reports = Option.some tokens → Verdict registry task.demand false →
    k.Blamed registry v tokens

namespace Keywords

variable {registry : Registry} {k : Keywords} {v : Value}

/-! ## Tasks of each kind -/

theorem suits_descend {b : Branch Nat} (h : v.Puts b.token b.value) :
    (Task.descend b).Suits registry k v where
  puts c hc := by rw [List.mem_singleton.mp hc]; exact h
  reports tokens htokens := nomatch htokens

/-- The check of a keyword that may be absent. -/
theorem suits_check {α : Type} {o : Option α} {violated : α → Bool} {keyword : String}
    {demand : α → Demand} (hasks : ∀ a, o = some a → k.Asks keyword v (demand a))
    (h : ∀ a, demand a = .holds (!violated a)) :
    (Task.check (o.any violated) [keyword]).Suits registry k v where
  puts b hb := absurd hb List.not_mem_nil
  reports tokens htokens hverdict := by
    cases htokens
    cases o with
    -- an absent keyword is not violated
    | none => exact nomatch hverdict
    | some a =>
        refine .keyword (hasks a rfl) ?_
        rw [h a]
        exact hverdict

/-- A trial on one of a list of branches, or on exactly one of them. -/
theorem suits_trial {task : Task Nat} {bs : List (Branch Nat)} {keyword : String}
    (hbranches : task.branches = bs) (hreports : task.reports = some [keyword])
    (hputs : ∀ b ∈ bs, v.Puts b.token b.value) (hasks : k.Asks keyword v task.demand) :
    task.Suits registry k v where
  puts b hb := hputs b (hbranches ▸ hb)
  reports tokens htokens hverdict := by
    rw [hreports] at htokens
    cases htokens
    exact .keyword hasks hverdict

/-- The checks for a list of names report the entries of the names that an object has not. -/
theorem suits_require {object : Members Value} {tokens names : List String}
    (h : ∀ (n : Nat) (name : String), names[n]? = some name → object.has name = false →
      k.Blamed registry (.object object) (tokens ++ [toString n])) :
    ∀ task ∈ requireTasks object tokens names, task.Suits registry k (.object object) := by
  intro task htask
  obtain ⟨⟨name, n⟩, hname, rfl⟩ := List.mem_map.mp htask
  refine ⟨fun b hb => absurd hb List.not_mem_nil, fun tokens' htokens hverdict => ?_⟩
  cases htokens
  refine h n name (List.mem_zipIdx_iff_getElem?.mp hname) ?_
  have hverdict : Verdict registry (.holds (!!object.has name)) false := hverdict
  rw [Bool.not_not] at hverdict
  -- the verdict on a plain condition is the condition itself
  generalize object.has name = has at hverdict
  cases hverdict
  rfl

/-! ## Keywords that combine schemas -/

theorem puts_option {o : Option Nat} {tokens : List String} :
    ∀ b ∈ (o.map fun j => (⟨tokens, none, j, v⟩ : Branch Nat)).toList, v.Puts b.token b.value := by
  intro b hb
  obtain ⟨j, _, rfl⟩ := Option.map_eq_some_iff.mp (Option.mem_toList.mp hb)
  exact .same

theorem puts_listBranches {keyword : String} {schemas : List Nat} :
    ∀ b ∈ Combinators.listBranches keyword schemas v, v.Puts b.token b.value := by
  intro b hb
  obtain ⟨p, _, rfl⟩ := List.mem_map.mp hb
  exact .same

theorem suits_negated : ∀ task ∈ k.combinators.negatedTasks v, task.Suits registry k v := by
  intro task htask
  unfold Combinators.negatedTasks at htask
  cases hn : k.combinators.negated with
  | none => rw [hn] at htask; exact absurd htask List.not_mem_nil
  | some i =>
      rw [hn] at htask
      rw [List.mem_singleton.mp htask]
      exact suits_trial rfl rfl (List.forall_mem_singleton.mpr .same) (.not hn)

theorem suits_conditional : ∀ task ∈ k.combinators.conditionalTasks v, task.Suits registry k v := by
  intro task htask
  unfold Combinators.conditionalTasks at htask
  cases hc : k.combinators.condition with
  | none => rw [hc] at htask; exact absurd htask List.not_mem_nil
  | some i =>
      rw [hc] at htask
      rw [List.mem_singleton.mp htask]
      refine ⟨List.forall_mem_cons.mpr ⟨.same, List.forall_mem_append.mpr ⟨?_, ?_⟩⟩,
        fun tokens htokens => nomatch htokens⟩
      · exact puts_option
      · exact puts_option

theorem suits_lists : ∀ task ∈ k.combinators.listTasks v, task.Suits registry k v := by
  unfold Combinators.listTasks
  refine List.forall_mem_append.mpr ⟨List.forall_mem_append.mpr ⟨?_, ?_⟩, ?_⟩
  · exact List.forall_mem_map.mpr fun b hb => suits_descend (puts_listBranches b hb)
  · cases ha : k.combinators.anyOf with
    | none => exact List.forall_mem_nil _
    | some schemas =>
        refine List.forall_mem_singleton.mpr (suits_trial rfl rfl puts_listBranches ?_)
        rw [Task.demand, map_demand_listBranches]
        exact .anyOf ha
  · cases ho : k.combinators.oneOf with
    | none => exact List.forall_mem_nil _
    | some schemas =>
        refine List.forall_mem_singleton.mpr (suits_trial rfl rfl puts_listBranches ?_)
        rw [Task.demand, map_demand_listBranches]
        exact .oneOf ho

/-! ## Numbers and strings -/

theorem suits_number (n : Number) :
    ∀ task ∈ k.numbers.tasks n, task.Suits registry k (.number n) := by
  unfold NumberRules.tasks
  simp only [List.forall_mem_cons]
  refine ⟨?_, ?_, ?_, ?_, ?_, List.forall_mem_nil _⟩
  · exact suits_check (fun _ => .multipleOf) fun _ => rfl
  · exact suits_check (fun _ => .maximum) fun _ => holds_le _ _
  · exact suits_check (fun _ => .minimum) fun _ => holds_le _ _
  · exact suits_check (fun _ => .exclusiveMaximum) fun _ => holds_lt _ _
  · exact suits_check (fun _ => .exclusiveMinimum) fun _ => holds_lt _ _

theorem suits_string (s : String) :
    ∀ task ∈ k.strings.tasks s, task.Suits registry k (.string s) := by
  unfold StringRules.tasks
  simp only [List.forall_mem_cons]
  refine ⟨?_, ?_, ?_, List.forall_mem_nil _⟩
  · exact suits_check (fun _ => .maxLength) fun _ => holds_le_nat _ _
  · exact suits_check (fun _ => .minLength) fun _ => holds_le_nat _ _
  · exact suits_check (fun _ => .pattern) fun _ => by rw [Bool.not_not]

/-! ## Arrays -/

variable {items : List Value}

/-- The number of an element leads to it. -/
theorem puts_element {w : Value} {i : Nat} (h : (w, i) ∈ items.zipIdx) :
    (Value.array items).Puts (some (toString i)) w := by
  refine .part ?_
  rw [Pointer.step_element]
  exact List.mem_zipIdx_iff_getElem?.mp h

theorem puts_elementBranches (rules : ArrayRules) :
    ∀ b ∈ rules.elementBranches items, (Value.array items).Puts b.token b.value := by
  unfold ArrayRules.elementBranches
  cases rules.items with
  | none => exact List.forall_mem_nil _
  | some form =>
      cases form with
      | all j => exact List.forall_mem_map.mpr fun p hp => puts_element hp
      | positional schemas =>
          refine List.forall_mem_append.mpr ⟨List.forall_mem_map.mpr ?_, ?_⟩
          -- the first elements have schemas of their own, the others share one
          · rintro ⟨⟨j, w⟩, i⟩ hp
            have hpair := List.mem_zipIdx_iff_getElem?.mp hp
            have hw := (List.getElem?_zip_eq_some.mp hpair).2
            exact puts_element (List.mem_zipIdx_iff_getElem?.mpr hw)
          · intro b hb
            obtain ⟨p, hp, hb⟩ := List.mem_flatMap.mp hb
            obtain ⟨j, _, rfl⟩ := List.mem_map.mp hb
            exact puts_element (List.mem_of_mem_drop hp)

theorem suits_array : ∀ task ∈ k.arrays.tasks items, task.Suits registry k (.array items) := by
  unfold ArrayRules.tasks
  refine List.forall_mem_append.mpr ⟨List.forall_mem_append.mpr ⟨?_, ?_⟩, ?_⟩
  · exact List.forall_mem_map.mpr fun b hb => suits_descend (puts_elementBranches k.arrays b hb)
  · simp only [List.forall_mem_cons]
    refine ⟨?_, ?_, ?_, List.forall_mem_nil _⟩
    · exact suits_check (fun _ => .maxItems) fun _ => holds_le_nat _ _
    · exact suits_check (fun _ => .minItems) fun _ => holds_le_nat _ _
    · refine ⟨fun b hb => absurd hb List.not_mem_nil, fun tokens htokens hverdict => ?_⟩
      cases htokens
      -- `false` asks for nothing, as if the keyword were absent
      cases hu : k.arrays.uniqueItems with
      | false => rw [hu] at hverdict; exact nomatch hverdict
      | true =>
          rw [hu] at hverdict
          exact .keyword (.uniqueItems hu) hverdict
  · cases hc : k.arrays.contains with
    | none => exact List.forall_mem_nil _
    | some j =>
        refine List.forall_mem_singleton.mpr (suits_trial rfl rfl
          (List.forall_mem_map.mpr fun p hp => puts_element hp) ?_)
        rw [Task.demand, map_map_zipIdx (f := Branch.demand) (fun v => .schema j v) (fun _ => rfl)]
        exact .contains hc

/-! ## Objects -/

variable {object : Members Value} (hd : (Value.object object).Distinct)
include hd

theorem puts_memberBranches (rules : ObjectRules) {name : String} {w : Value}
    (h : (name, w) ∈ object) :
    ∀ b ∈ rules.memberBranches name w, (Value.object object).Puts b.token b.value := by
  have hputs : (Value.object object).Puts (some name) w := .part (Pointer.step_member hd h)
  unfold ObjectRules.memberBranches
  refine List.forall_mem_append.mpr ⟨List.forall_mem_append.mpr ⟨?_, ?_⟩, ?_⟩
  · exact List.forall_mem_map.mpr fun _ _ => hputs
  · exact List.forall_mem_map.mpr fun _ _ => hputs
  · split
    · exact List.forall_mem_map.mpr fun _ _ => hputs
    · exact List.forall_mem_nil _

omit hd in
theorem suits_dependency {dependencies : List (String × Dependency)}
    (h : k.objects.dependencies = some dependencies) {owner : String} {d : Dependency}
    (hmem : (owner, d) ∈ dependencies) :
    ∀ task ∈ ObjectRules.dependencyTasks object owner d,
      task.Suits registry k (.object object) := by
  unfold ObjectRules.dependencyTasks
  split
  · rename_i howner
    cases d with
    | schema j => exact List.forall_mem_singleton.mpr (suits_descend .same)
    | required names =>
        exact suits_require fun n name hname hnot => .dependency h hmem howner hname hnot
  · exact List.forall_mem_nil _

theorem suits_object : ∀ task ∈ k.objects.tasks object, task.Suits registry k (.object object) := by
  unfold ObjectRules.tasks
  refine List.forall_mem_append.mpr ⟨List.forall_mem_append.mpr ⟨List.forall_mem_append.mpr
    ⟨List.forall_mem_append.mpr ⟨?_, ?_⟩, ?_⟩, ?_⟩, ?_⟩
  · simp only [List.forall_mem_cons]
    refine ⟨?_, ?_, List.forall_mem_nil _⟩
    · exact suits_check (fun _ => .maxProperties) fun _ => holds_le_nat _ _
    · exact suits_check (fun _ => .minProperties) fun _ => holds_le_nat _ _
  · cases hr : k.objects.required with
    | none => exact List.forall_mem_nil _
    | some names => exact suits_require fun n name hname hnot => .required hr hname hnot
  · refine List.forall_mem_flatMap.mpr fun p hp => List.forall_mem_map.mpr fun b hb => ?_
    exact suits_descend (puts_memberBranches hd k.objects hp b hb)
  · cases hdep : k.objects.dependencies with
    | none => exact List.forall_mem_nil _
    | some dependencies =>
        exact List.forall_mem_flatMap.mpr fun p hp => suits_dependency hdep hp
  · cases k.objects.propertyNames with
    | none => exact List.forall_mem_nil _
    | some j =>
        refine List.forall_mem_map.mpr fun p hp => suits_descend (.name ?_)
        exact Option.isSome_iff_exists.mpr ⟨p.2, Pointer.step_member hd hp⟩

omit hd in
/-- **The tasks of a node put parts of the value, and report what its keywords blame it for.** -/
theorem suits_ownTasks (hd : v.Distinct) : ∀ task ∈ k.ownTasks v, task.Suits registry k v := by
  unfold ownTasks
  refine List.forall_mem_append.mpr ⟨List.forall_mem_append.mpr ⟨List.forall_mem_append.mpr
    ⟨List.forall_mem_append.mpr ⟨List.forall_mem_append.mpr ⟨suits_negated, suits_conditional⟩, ?_⟩,
    suits_lists⟩, ?_⟩, ?_⟩
  · simp only [List.forall_mem_cons]
    refine ⟨?_, ?_, List.forall_mem_nil _⟩
    · exact suits_check (fun _ => .const) fun _ => by rw [Bool.not_not]
    · exact suits_check (fun _ => .enum) fun _ => by rw [Bool.not_not]
  · exact List.forall_mem_singleton.mpr
      (suits_check (fun _ => .type) fun _ => by rw [Bool.not_not])
  · unfold shapedTasks
    cases v with
    | null => exact List.forall_mem_nil _
    | bool b => exact List.forall_mem_nil _
    | number n => exact suits_number n
    | string s => exact suits_string s
    | array items => exact suits_array
    | object object => exact suits_object hd

end Keywords

end JsonSchema
