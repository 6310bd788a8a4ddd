import JsonSchema.Proofs.Addressing.Pointer
import JsonSchema.Proofs.Direct.Distinct
import JsonSchema.Proofs.Evaluation.Places

/-!
# The ways to what is reported

A task reports a violation of a keyword, or it leaves that to a sub-schema. Both have a way from the
node: the tokens to the keyword or the sub-schema, and the token to the value, unless it is the same
value. What is reported lies below that way, however deep in the sub-schema it is found.

Two ways are apart if no violation lies below both. The tasks of a node are apart from each other.
Most of them have keywords of their own. Under the same keyword they are told apart by the next
token, which is a name or a number, or by the token to the value: the names of members differ, and
so do the numbers of elements.
-/

namespace JsonSchema

variable {ι : Type}

/-- A way from the places of a node. -/
structure Way where
  /-- The way in the document. -/
  tokens : List String
  /-- The way in the instance, unless it is the same value. -/
  token : Option String

/-- The way to a branch. -/
def Branch.way (b : Branch ι) : Way := ⟨b.tokens, b.token⟩

/-- The violation lies below a way that starts at `here`. -/
structure Violation.Below (e here : Violation) (w : Way) : Prop where
  inInstance : here.instancePath.tokens ++ w.token.toList <+: e.instancePath.tokens
  inDocument : here.schemaPath.tokens ++ w.tokens <+: e.schemaPath.tokens

/-- No violation lies below both ways. -/
def Way.Apart (w w' : Way) : Prop :=
  ∀ here e : Violation, e.Below here w → ¬ e.Below here w'

/-- The ways to what a task reports. Trials report nothing. -/
def Task.ways : Task ι → List Way
  | check _ tokens => [⟨tokens, none⟩]
  | descend b => [b.way]
  | follow _ _ _ => []
  | choose _ onPass onFail => (onPass.toList ++ onFail.toList).map Branch.way
  | refute _ tokens => [⟨tokens, none⟩]
  | some _ tokens => [⟨tokens, none⟩]
  | one _ tokens => [⟨tokens, none⟩]

/-- Nothing that is reported by one task is reported by the other one. -/
def Task.Apart (t t' : Task ι) : Prop := ∀ w ∈ t.ways, ∀ w' ∈ t'.ways, w.Apart w'

/-! ## Ways that are apart -/

namespace Way

/-- Two ways as long as each other, below which the same list lies, are the same. -/
theorem eq_of_prefixes {front l l' x : List String} (hlen : l.length = l'.length)
    (h : front ++ l <+: x) (h' : front ++ l' <+: x) : l = l' := by
  have hle : (front ++ l).length ≤ (front ++ l').length := by
    simp only [List.length_append, hlen, Nat.le_refl]
  have hprefix := List.prefix_of_prefix_length_le h h' hle
  exact ((List.prefix_append_right_inj front).mp hprefix).eq_of_length hlen

/-- Ways into different parts of the document are apart. -/
theorem apart_of_prefix {w w' : Way} {l l' : List String} (h : l <+: w.tokens)
    (h' : l' <+: w'.tokens) (hlen : l.length = l'.length) (hne : l ≠ l') : w.Apart w' := by
  intro here e he he'
  have hl := ((List.prefix_append_right_inj _).mpr h).trans he.inDocument
  have hl' := ((List.prefix_append_right_inj _).mpr h').trans he'.inDocument
  exact hne (eq_of_prefixes hlen hl hl')

/-- Ways to different parts of the instance are apart. -/
theorem apart_of_token {w w' : Way} {a a' : String} (h : w.token = some a)
    (h' : w'.token = some a') (hne : a ≠ a') : w.Apart w' := by
  intro here e he he'
  have hl := he.inInstance
  have hl' := he'.inInstance
  rw [h] at hl
  rw [h'] at hl'
  have heq : [a] = [a'] := eq_of_prefixes rfl hl hl'
  exact hne (List.head_eq_of_cons_eq heq)

/-- The numbers of elements tell them apart. -/
theorem toString_ne {i j : Nat} (h : i ≠ j) : toString i ≠ toString j := by
  intro heq
  have hread := Pointer.index?_toString i
  rw [heq, Pointer.index?_toString] at hread
  exact h (Option.some.inj hread).symm

theorem pairwise_zipIdx {α : Type} (l : List α) : l.zipIdx.Pairwise fun p q => p.2 ≠ q.2 := by
  have hnodup : (l.zipIdx.map Prod.snd).Nodup := by
    rw [List.zipIdx_map_snd]
    exact List.nodup_range' 1
  exact List.pairwise_map.mp hnodup

/-- One branch at most has no other one to be apart from. -/
theorem pairwise_toList {α : Type} (o : Option α) (f : α → Branch ι) :
    (o.toList.map f).Pairwise fun b c => b.way.Apart c.way := by
  cases o with
  | none => exact .nil
  | some a => exact List.pairwise_singleton _ _

end Way

namespace Task

/-! ## Groups of tasks -/

/-- Tasks that are apart from each other, with ways that begin with some keywords. -/
structure Parted (keywords : List String) (tasks : List (Task ι)) : Prop where
  apart : tasks.Pairwise Apart
  starts : ∀ task ∈ tasks, ∀ w ∈ task.ways, ∃ keyword ∈ keywords, [keyword] <+: w.tokens

variable {keywords keywords' : List String} {tasks tasks' : List (Task ι)} {keyword : String}

theorem Parted.nil : Parted keywords ([] : List (Task ι)) where
  apart := .nil
  starts _ h := absurd h List.not_mem_nil

/-- Groups with other keywords are apart from each other. -/
theorem Parted.append (h : Parted keywords tasks) (h' : Parted keywords' tasks')
    (hdisjoint : ∀ keyword ∈ keywords, keyword ∉ keywords') :
    Parted (keywords ++ keywords') (tasks ++ tasks') where
  apart := by
    refine List.pairwise_append.mpr ⟨h.apart, h'.apart, fun t ht t' ht' w hw w' hw' => ?_⟩
    obtain ⟨keyword, hk, hstarts⟩ := h.starts t ht w hw
    obtain ⟨keyword', hk', hstarts'⟩ := h'.starts t' ht' w' hw'
    refine Way.apart_of_prefix hstarts hstarts' rfl fun heq => ?_
    rw [List.head_eq_of_cons_eq heq] at hk
    exact hdisjoint keyword' hk hk'
  starts := by
    refine List.forall_mem_append.mpr ⟨fun t ht w hw => ?_, fun t ht w hw => ?_⟩
    · obtain ⟨keyword, hk, hstarts⟩ := h.starts t ht w hw
      exact ⟨keyword, List.mem_append_left _ hk, hstarts⟩
    · obtain ⟨keyword, hk, hstarts⟩ := h'.starts t ht w hw
      exact ⟨keyword, List.mem_append_right _ hk, hstarts⟩

theorem Parted.single {task : Task ι}
    (h : ∀ w ∈ task.ways, ∃ keyword ∈ keywords, [keyword] <+: w.tokens) :
    Parted keywords [task] where
  apart := List.pairwise_singleton _ _
  starts t ht := by rw [List.mem_singleton.mp ht]; exact h

/-- A task that reports its own keyword. -/
theorem Parted.own {task : Task ι} (h : task.ways = [⟨[keyword], none⟩]) :
    Parted [keyword] [task] := by
  refine .single fun w hw => ?_
  rw [h, List.mem_singleton] at hw
  rw [hw]
  exact ⟨keyword, List.mem_singleton_self _, List.prefix_refl _⟩

theorem Parted.check (violated : Bool) (keyword : String) :
    Parted [keyword] [(Task.check violated [keyword] : Task ι)] := .own rfl

/-- Sub-schemas that are evaluated for real. -/
theorem Parted.descend {bs : List (Branch ι)} (hapart : bs.Pairwise fun b c => b.way.Apart c.way)
    (hstarts : ∀ b ∈ bs, ∃ keyword ∈ keywords, [keyword] <+: b.tokens) :
    Parted keywords (bs.map Task.descend) where
  apart := by
    refine List.pairwise_map.mpr (hapart.imp fun hbc w hw w' hw' => ?_)
    rw [List.mem_singleton.mp hw, List.mem_singleton.mp hw']
    exact hbc
  starts := by
    refine List.forall_mem_map.mpr fun b hb w hw => ?_
    rw [List.mem_singleton.mp hw]
    exact hstarts b hb

end Task

/-! ## The tasks of a node -/

theorem NumberRules.parted_tasks (rules : NumberRules) (n : Number) :
    Task.Parted ["multipleOf", "maximum", "minimum", "exclusiveMaximum", "exclusiveMinimum"]
      (rules.tasks n : List (Task ι)) :=
  (Task.Parted.check _ "multipleOf").append ((Task.Parted.check _ "maximum").append
    ((Task.Parted.check _ "minimum").append ((Task.Parted.check _ "exclusiveMaximum").append
      (Task.Parted.check _ "exclusiveMinimum") (by decide)) (by decide)) (by decide)) (by decide)

theorem StringRules.parted_tasks (rules : StringRules) (s : String) :
    Task.Parted ["maxLength", "minLength", "pattern"] (rules.tasks s : List (Task ι)) :=
  (Task.Parted.check _ "maxLength").append ((Task.Parted.check _ "minLength").append
    (Task.Parted.check _ "pattern") (by decide)) (by decide)

namespace Combinators

variable (k : Combinators) (v : Value)

theorem parted_negated : Task.Parted ["not"] (k.negatedTasks v) := by
  unfold negatedTasks
  cases k.negated with
  | none => exact .nil
  | some i => exact .own rfl

theorem parted_conditional : Task.Parted ["then", "else"] (k.conditionalTasks v) := by
  unfold conditionalTasks
  cases k.condition with
  | none => exact .nil
  | some i =>
      refine .single fun w hw => ?_
      obtain ⟨b, hb, rfl⟩ := List.mem_map.mp hw
      rcases List.mem_append.mp hb with hb | hb
      · obtain ⟨j, _, rfl⟩ := Option.map_eq_some_iff.mp (Option.mem_toList.mp hb)
        exact ⟨"then", by decide, List.prefix_refl _⟩
      · obtain ⟨j, _, rfl⟩ := Option.map_eq_some_iff.mp (Option.mem_toList.mp hb)
        exact ⟨"else", by decide, List.prefix_refl _⟩

/-- The schemas of a list have numbers. -/
theorem parted_listBranches (keyword : String) (schemas : List Nat) :
    Task.Parted [keyword] ((listBranches keyword schemas v).map Task.descend) := by
  refine .descend ?_ (List.forall_mem_map.mpr fun p _ => ⟨keyword, List.mem_singleton_self _,
    List.prefix_append [keyword] [toString p.2]⟩)
  refine List.pairwise_map.mpr ((Way.pairwise_zipIdx schemas).imp fun hne => ?_)
  refine Way.apart_of_prefix (List.prefix_refl _) (List.prefix_refl _) rfl fun heq => ?_
  exact Way.toString_ne hne (List.head_eq_of_cons_eq (List.tail_eq_of_cons_eq heq))

theorem parted_lists : Task.Parted ["allOf", "anyOf", "oneOf"] (k.listTasks v) := by
  unfold listTasks
  change Task.Parted (["allOf"] ++ ["anyOf"] ++ ["oneOf"]) _
  refine .append (.append (parted_listBranches v "allOf" _) ?_ (by decide)) ?_ (by decide)
  · cases k.anyOf with
    | none => exact .nil
    | some schemas => exact .own rfl
  · cases k.oneOf with
    | none => exact .nil
    | some schemas => exact .own rfl

end Combinators

namespace ArrayRules

variable (rules : ArrayRules) (items : List Value)

/-- The numbers of the elements tell the branches apart. -/
theorem parted_elements :
    Task.Parted ["items", "additionalItems"] ((rules.elementBranches items).map Task.descend) := by
  have hnumbers : ∀ {i j : Nat} {b c : Branch Nat}, b.token = some (toString i) →
      c.token = some (toString j) → i ≠ j → b.way.Apart c.way :=
    fun hb hc hne => Way.apart_of_token hb hc (Way.toString_ne hne)
  unfold elementBranches
  cases rules.items with
  | none => exact .nil
  | some form =>
      cases form with
      | all j =>
          refine .descend ?_ (List.forall_mem_map.mpr fun p _ =>
            ⟨"items", by decide, List.prefix_refl _⟩)
          exact List.pairwise_map.mpr
            ((Way.pairwise_zipIdx items).imp fun hne => hnumbers rfl rfl hne)
      | positional schemas =>
          rw [List.map_append]
          change Task.Parted (["items"] ++ ["additionalItems"]) _
          refine .append ?_ ?_ (by decide)
          · refine .descend ?_ (List.forall_mem_map.mpr fun p _ => ⟨"items", by decide,
              List.prefix_append ["items"] [toString p.2]⟩)
            exact List.pairwise_map.mpr
              ((Way.pairwise_zipIdx _).imp fun hne => hnumbers rfl rfl hne)
          · refine .descend ?_ (List.forall_mem_flatMap.mpr fun p _ => List.forall_mem_map.mpr
              fun j _ => ⟨"additionalItems", by decide, List.prefix_refl _⟩)
            refine List.pairwise_flatMap.mpr ⟨fun p _ => Way.pairwise_toList _ _, ?_⟩
            refine ((Way.pairwise_zipIdx items).sublist (List.drop_sublist _ _)).imp ?_
            intro p q hne b hb c hc
            obtain ⟨_, _, rfl⟩ := List.mem_map.mp hb
            obtain ⟨_, _, rfl⟩ := List.mem_map.mp hc
            exact hnumbers rfl rfl hne

theorem parted_tasks :
    Task.Parted ["items", "additionalItems", "maxItems", "minItems", "uniqueItems", "contains"]
      (rules.tasks items) := by
  unfold tasks
  have hchecks := (Task.Parted.check (ι := Nat) (rules.maxItems.any (· < items.length))
    "maxItems").append ((Task.Parted.check (rules.minItems.any (items.length < ·))
      "minItems").append (.check (rules.uniqueItems && Value.hasDuplicate items) "uniqueItems")
        (by decide)) (by decide)
  have helements := (rules.parted_elements items).append hchecks (by decide)
  change Task.Parted (["items", "additionalItems", "maxItems", "minItems", "uniqueItems"] ++
    ["contains"]) _
  refine helements.append ?_ (by decide)
  cases rules.contains with
  | none => exact .nil
  | some j => exact .own rfl

end ArrayRules

/-- The names of a list have numbers. -/
theorem pairwise_requireTasks (members : Members Value) (tokens names : List String) :
    (requireTasks members tokens names : List (Task ι)).Pairwise Task.Apart := by
  refine List.pairwise_map.mpr ((Way.pairwise_zipIdx names).imp fun hne w hw w' hw' => ?_)
  rw [List.mem_singleton.mp hw, List.mem_singleton.mp hw']
  refine Way.apart_of_prefix (List.prefix_refl _) (List.prefix_refl _) (by simp) fun heq => ?_
  have hlast : [toString _] = [toString _] := List.append_cancel_left heq
  exact Way.toString_ne hne (List.head_eq_of_cons_eq hlast)

/-- The entries of a list of names lie below the list. -/
theorem prefix_of_mem_requireTasks {members : Members Value} {tokens names : List String}
    {task : Task ι} (h : task ∈ requireTasks members tokens names) :
    ∀ w ∈ task.ways, tokens <+: w.tokens := by
  obtain ⟨p, _, rfl⟩ := List.mem_map.mp h
  intro w hw
  rw [List.mem_singleton.mp hw]
  exact List.prefix_append _ _

/-- Patterns and owners of dependencies are keys of an object, so none occurs twice. -/
structure Keywords.Separate (k : Keywords) : Prop where
  patterns : ((k.objects.patternProperties.getD []).map fun p => p.1.text).Nodup
  owners : ((k.objects.dependencies.getD []).map Prod.fst).Nodup

namespace ObjectRules

variable {rules : ObjectRules} {members : Members Value}

theorem parted_required (rules : ObjectRules) (members : Members Value) :
    Task.Parted ["required"]
      (requireTasks members ["required"] (rules.required.getD []) : List (Task ι)) where
  apart := pairwise_requireTasks members _ _
  starts _ ht w hw :=
    ⟨"required", List.mem_singleton_self _, prefix_of_mem_requireTasks ht w hw⟩

/-- The branches of one member have keywords of their own, and the patterns differ. -/
theorem pairwise_memberBranches
    (hp : ((rules.patternProperties.getD []).map fun p => p.1.text).Nodup) (name : String)
    (v : Value) : (rules.memberBranches name v).Pairwise fun b c => b.way.Apart c.way := by
  have hkeywords : ∀ {keyword keyword' : String} {rest rest' : List String} {b c : Branch Nat},
      b.tokens = keyword :: rest → c.tokens = keyword' :: rest' → keyword ≠ keyword' →
        b.way.Apart c.way := by
    intro keyword keyword' rest rest' b c hb hc hne
    have hstarts : [keyword] <+: b.tokens := ⟨rest, hb.symm⟩
    have hstarts' : [keyword'] <+: c.tokens := ⟨rest', hc.symm⟩
    exact Way.apart_of_prefix hstarts hstarts' rfl fun heq => hne (List.head_eq_of_cons_eq heq)
  unfold memberBranches
  refine List.pairwise_append.mpr ⟨List.pairwise_append.mpr ⟨Way.pairwise_toList _ _, ?_, ?_⟩, ?_,
    ?_⟩
  · -- patterns
    have hmatching : (rules.matching name).Pairwise fun p q => p.1.text ≠ q.1.text :=
      (List.pairwise_map.mp hp).sublist List.filter_sublist
    refine List.pairwise_map.mpr (hmatching.imp fun hne => ?_)
    refine Way.apart_of_prefix (List.prefix_refl _) (List.prefix_refl _) rfl fun heq => ?_
    exact hne (List.head_eq_of_cons_eq (List.tail_eq_of_cons_eq heq))
  · intro b hb c hc
    obtain ⟨_, _, rfl⟩ := List.mem_map.mp hb
    obtain ⟨_, _, rfl⟩ := List.mem_map.mp hc
    exact hkeywords rfl rfl (by decide)
  · split
    · exact Way.pairwise_toList _ _
    · exact .nil
  · intro b hb c hc
    split at hc
    · obtain ⟨_, _, rfl⟩ := List.mem_map.mp hc
      rcases List.mem_append.mp hb with hb | hb
      · obtain ⟨_, _, rfl⟩ := List.mem_map.mp hb
        exact hkeywords rfl rfl (by decide)
      · obtain ⟨_, _, rfl⟩ := List.mem_map.mp hb
        exact hkeywords rfl rfl (by decide)
    · exact absurd hc List.not_mem_nil

/-- What a branch of a member begins with. -/
theorem memberBranches_starts (rules : ObjectRules) (name : String) (v : Value) :
    ∀ b ∈ rules.memberBranches name v, b.token = some name ∧
      ∃ keyword ∈ ["properties", "patternProperties", "additionalProperties"],
        [keyword] <+: b.tokens := by
  unfold memberBranches
  refine List.forall_mem_append.mpr ⟨List.forall_mem_append.mpr ⟨?_, ?_⟩, ?_⟩
  · exact List.forall_mem_map.mpr fun j _ =>
      ⟨rfl, "properties", by decide, List.prefix_append ["properties"] [name]⟩
  · exact List.forall_mem_map.mpr fun p _ =>
      ⟨rfl, "patternProperties", by decide, List.prefix_append ["patternProperties"] [p.1.text]⟩
  · split
    · exact List.forall_mem_map.mpr fun j _ =>
        ⟨rfl, "additionalProperties", by decide, List.prefix_refl _⟩
    · exact List.forall_mem_nil _

/-- The names of the members tell their branches apart. -/
theorem parted_members
    (hp : ((rules.patternProperties.getD []).map fun p => p.1.text).Nodup)
    (hd : members.Distinct) :
    Task.Parted ["properties", "patternProperties", "additionalProperties"]
      (members.flatMap fun p => (rules.memberBranches p.1 p.2).map Task.descend) := by
  rw [← List.map_flatMap]
  refine .descend ?_ (List.forall_mem_flatMap.mpr fun p _ b hb =>
    (rules.memberBranches_starts p.1 p.2 b hb).2)
  refine List.pairwise_flatMap.mpr ⟨fun p _ => pairwise_memberBranches hp p.1 p.2, ?_⟩
  have hnames : members.Pairwise fun p q => p.1 ≠ q.1 := List.pairwise_map.mp hd
  refine hnames.imp fun hne b hb c hc => ?_
  exact Way.apart_of_token (rules.memberBranches_starts _ _ b hb).1
    (rules.memberBranches_starts _ _ c hc).1 hne

/-- What belongs to a dependency lies below its owner. -/
theorem prefix_of_mem_dependencyTasks {name : String} {d : Dependency} {task : Task Nat}
    (h : task ∈ dependencyTasks members name d) :
    ∀ w ∈ task.ways, ["dependencies", name] <+: w.tokens := by
  unfold dependencyTasks at h
  split at h
  · cases d with
    | schema j =>
        rw [List.mem_singleton.mp h]
        exact List.forall_mem_singleton.mpr (List.prefix_refl _)
    | required names => exact prefix_of_mem_requireTasks h
  · exact absurd h List.not_mem_nil

/-- The owners tell the dependencies apart. -/
theorem parted_dependencies
    (ho : ((rules.dependencies.getD []).map Prod.fst).Nodup) :
    Task.Parted ["dependencies"]
      ((rules.dependencies.getD []).flatMap fun p => dependencyTasks members p.1 p.2) where
  apart := by
    refine List.pairwise_flatMap.mpr ⟨fun p _ => ?_, ?_⟩
    · unfold dependencyTasks
      split
      · cases p.2 with
        | schema j => exact List.pairwise_singleton _ _
        | required names => exact pairwise_requireTasks members _ names
      · exact .nil
    · refine (List.pairwise_map.mp ho).imp fun hne t ht t' ht' w hw w' hw' => ?_
      refine Way.apart_of_prefix (prefix_of_mem_dependencyTasks ht w hw)
        (prefix_of_mem_dependencyTasks ht' w' hw') rfl fun heq => ?_
      exact hne (List.head_eq_of_cons_eq (List.tail_eq_of_cons_eq heq))
  starts := by
    refine List.forall_mem_flatMap.mpr fun p _ t ht w hw => ?_
    exact ⟨"dependencies", List.mem_singleton_self _,
      (List.prefix_append ["dependencies"] [p.1]).trans (prefix_of_mem_dependencyTasks ht w hw)⟩

theorem parted_propertyNames (rules : ObjectRules) (hd : members.Distinct) :
    Task.Parted ["propertyNames"]
      (match rules.propertyNames with
        | none => []
        | some j => members.map fun (name, _) =>
          Task.descend ⟨["propertyNames"], some name, j, .string name⟩) := by
  cases rules.propertyNames with
  | none => exact .nil
  | some j =>
      have hnames : members.Pairwise fun p q => p.1 ≠ q.1 := List.pairwise_map.mp hd
      refine ⟨List.pairwise_map.mpr (hnames.imp fun hne w hw w' hw' => ?_),
        List.forall_mem_map.mpr fun p _ w hw => ?_⟩
      · rw [List.mem_singleton.mp hw, List.mem_singleton.mp hw']
        exact Way.apart_of_token rfl rfl hne
      · rw [List.mem_singleton.mp hw]
        exact ⟨"propertyNames", List.mem_singleton_self _, List.prefix_refl _⟩

theorem parted_tasks
    (hp : ((rules.patternProperties.getD []).map fun p => p.1.text).Nodup)
    (ho : ((rules.dependencies.getD []).map Prod.fst).Nodup) (hd : members.Distinct) :
    Task.Parted ["maxProperties", "minProperties", "required", "properties", "patternProperties",
      "additionalProperties", "dependencies", "propertyNames"] (rules.tasks members) := by
  have hcounts := (Task.Parted.check (ι := Nat)
    (rules.maxProperties.any (· < members.length)) "maxProperties").append
      (Task.Parted.check (rules.minProperties.any (members.length < ·)) "minProperties") (by decide)
  exact (((hcounts.append (rules.parted_required members) (by decide)).append
    (parted_members hp hd) (by decide)).append (parted_dependencies ho) (by decide)).append
      (rules.parted_propertyNames hd) (by decide)

end ObjectRules

namespace Keywords

variable {k : Keywords} {v : Value}

/-- The keywords that apply to values of every kind, as far as they report anything. -/
def common : List String :=
  ["not", "then", "else", "const", "enum", "allOf", "anyOf", "oneOf", "type"]

/-- The keywords for one kind of value are others. -/
theorem parted_shaped (hk : k.Separate) (hd : v.Distinct) :
    ∃ keywords, Task.Parted keywords (k.shapedTasks v) ∧
      ∀ keyword ∈ common, keyword ∉ keywords := by
  cases v with
  | null => exact ⟨[], .nil, by decide⟩
  | bool b => exact ⟨[], .nil, by decide⟩
  | number n => exact ⟨_, k.numbers.parted_tasks n, by decide⟩
  | string s => exact ⟨_, k.strings.parted_tasks s, by decide⟩
  | array items => exact ⟨_, k.arrays.parted_tasks items, by decide⟩
  | object members =>
      obtain ⟨hnames, _⟩ := Value.distinct_object.mp hd
      exact ⟨_, ObjectRules.parted_tasks hk.patterns hk.owners hnames, by decide⟩

/-- **The tasks of a node are apart from each other.** -/
theorem pairwise_ownTasks (hk : k.Separate) (hd : v.Distinct) :
    (k.ownTasks v).Pairwise Task.Apart := by
  have hchecks := (Task.Parted.check (ι := Nat) (k.const.any fun c => !c.same v) "const").append
    (Task.Parted.check (k.enum.any fun values => !values.any fun c => c.same v) "enum") (by decide)
  have hcommon : Task.Parted common
      (k.combinators.negatedTasks v ++ k.combinators.conditionalTasks v ++
        [.check (k.const.any fun c => !c.same v) ["const"],
          .check (k.enum.any fun values => !values.any fun c => c.same v) ["enum"]] ++
        k.combinators.listTasks v ++
        [.check (k.types.any fun types => !types.any fun t => t.accepts v) ["type"]]) :=
    ((((k.combinators.parted_negated v).append (k.combinators.parted_conditional v)
      (by decide)).append hchecks (by decide)).append (k.combinators.parted_lists v)
        (by decide)).append (.check _ "type") (by decide)
  obtain ⟨keywords, hshaped, hdisjoint⟩ := parted_shaped hk hd
  exact (hcommon.append hshaped hdisjoint).apart

end Keywords

end JsonSchema
