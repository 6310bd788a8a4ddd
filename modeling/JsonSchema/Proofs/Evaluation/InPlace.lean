import JsonSchema.Proofs.Evaluation.Overflow
import Mathlib.Data.Finset.Card

/-!
# Enough frames

A node puts the very value that it is put to the node that its reference leads to, to the
sub-schemas of the keywords that combine schemas, and to those in `dependencies`: in place. All
others get something smaller. If no node can come back to itself in place, each reference is
followed at most once for a value, and then again only for smaller ones. So as many frames are
enough as there are references, for each level of the instance.
-/

namespace JsonSchema

/-- The nodes to which a node puts the value that it is put. -/
def Node.inPlace (node : Node) : List Nat :=
  match node.body with
  | .bool _ => []
  | .keywords k => k.inPlace

namespace Registry

/-- The same, by the index of the node. -/
def inPlace (registry : Registry) (i : Nat) : List Nat :=
  ((registry.get? i).map Node.inPlace).getD []

/-- A node puts the value that it is put to another one. -/
def InPlace (registry : Registry) (i j : Nat) : Prop := j ∈ registry.inPlace i

/-- No node comes back to itself in place. -/
def Acyclic (registry : Registry) : Prop := ∀ i, ¬ Relation.TransGen registry.InPlace i i

/-- The nodes with a `$ref`. -/
def refs (registry : Registry) : Finset Nat :=
  (Finset.range registry.size).filter fun i =>
    ((registry.get? i).bind Node.ref?).isSome = true

open Classical in
/-- The nodes with a `$ref` that a node can come to in place. -/
noncomputable def refsFrom (registry : Registry) (i : Nat) : Finset Nat :=
  registry.refs.filter fun j => Relation.ReflTransGen registry.InPlace i j

variable {registry : Registry} {i j : Nat}

theorem inPlace_of_mem {node : Node} {k : Keywords} (hn : registry.get? i = some node)
    (hk : node.body = .keywords k) (hj : j ∈ k.inPlace) : registry.InPlace i j := by
  unfold InPlace inPlace
  rw [hn, Option.map_some, Option.getD_some]
  unfold Node.inPlace
  rw [hk]
  exact hj

theorem mem_refs {node : Node} {ref : Reference} (hn : registry.get? i = some node)
    (href : node.ref? = some ref) : i ∈ registry.refs := by
  refine Finset.mem_filter.mpr ⟨Finset.mem_range.mpr (lt_size_of_get? hn), ?_⟩
  rw [hn, Option.bind_some, href]
  rfl

/-- A numbering that falls along all edges leaves no way back. -/
theorem acyclic_of_rank (rank : Nat → Nat)
    (h : ∀ i < registry.size, ∀ j ∈ registry.inPlace i, rank j < rank i) : registry.Acyclic := by
  have hstep : ∀ i j, registry.InPlace i j → rank j < rank i := by
    intro i j hedge
    by_cases hi : i < registry.size
    · exact h i hi j hedge
    · have hnone : registry.get? i = none := Array.getElem?_eq_none (Nat.le_of_not_lt hi)
      unfold InPlace inPlace at hedge
      rw [hnone] at hedge
      exact absurd hedge List.not_mem_nil
  have hfall : ∀ i j, Relation.TransGen registry.InPlace i j → rank j < rank i := by
    intro i j hpath
    induction hpath with
    | single hedge => exact hstep _ _ hedge
    | tail _ hedge ih => exact Nat.lt_trans (hstep _ _ hedge) ih
  intro i hcycle
  exact Nat.lt_irrefl _ (hfall i i hcycle)

/-! ## References that can still be met -/

theorem mem_refsFrom {l : Nat} : l ∈ registry.refsFrom i ↔
    l ∈ registry.refs ∧ Relation.ReflTransGen registry.InPlace i l := by
  classical exact Finset.mem_filter

theorem card_refsFrom_le (registry : Registry) (i : Nat) :
    (registry.refsFrom i).card ≤ registry.refs.card :=
  Finset.card_le_card fun _ hl => (mem_refsFrom.mp hl).1

theorem refsFrom_subset (h : registry.InPlace i j) :
    registry.refsFrom j ⊆ registry.refsFrom i := by
  intro l hl
  obtain ⟨hrefs, hpath⟩ := mem_refsFrom.mp hl
  exact mem_refsFrom.mpr ⟨hrefs, .head h hpath⟩

theorem self_mem_refsFrom (hi : i ∈ registry.refs) : i ∈ registry.refsFrom i :=
  mem_refsFrom.mpr ⟨hi, .refl⟩

/-- Once a reference has been followed, it is not met again in place. -/
theorem card_refsFrom_lt (hacyclic : registry.Acyclic) (hi : i ∈ registry.refs)
    (h : registry.InPlace i j) : (registry.refsFrom j).card < (registry.refsFrom i).card := by
  refine Finset.card_lt_card (Finset.ssubset_iff_subset_ne.mpr ⟨refsFrom_subset h, fun heq => ?_⟩)
  have hself := self_mem_refsFrom hi
  rw [← heq] at hself
  obtain ⟨_, hback⟩ := mem_refsFrom.mp hself
  exact hacyclic i (Relation.TransGen.head' h hback)

end Registry

namespace Eval

variable {registry : Registry} {limit : Nat}

/-! ## The frames that may be needed -/

/-- The frames that there are at a call, and those that may still be added: one for each reference
on each level below the value, and one for each reference that can be met in place. -/
noncomputable def needed (registry : Registry) (c : Call) : Nat :=
  c.places.depth + registry.refs.card * c.value.height + (registry.refsFrom c.index).card

/-- **A nested call does not need more.** -/
theorem Nests.needed_le (hacyclic : registry.Acyclic) {c c' : Call}
    (h : Nests registry limit c c') : needed registry c' ≤ needed registry c := by
  unfold needed
  cases h with
  | @inside node k b hnode hbody hleads =>
      rw [EvalStack.depth_below]
      rcases hleads.value with ⟨hvalue, hplace⟩ | hlower
      · -- the same value, from which fewer references can be met or the same
        have hedge := Registry.inPlace_of_mem hnode hbody hplace
        have hcard := Finset.card_le_card (Registry.refsFrom_subset hedge)
        dsimp only
        rw [hvalue]
        omega
      · -- a smaller value: all references can be met again, but there is one level less
        have hcard := registry.card_refsFrom_le b.schema
        have hlevels : registry.refs.card * (b.value.height + 1) ≤
            registry.refs.card * c.value.height := Nat.mul_le_mul_left _ hlower
        rw [Nat.mul_add, Nat.mul_one] at hlevels
        dsimp only
        omega
  | @follow node k ref j frame hnode hbody href hj hd =>
      have hplace : j ∈ k.inPlace := by
        unfold Keywords.inPlace
        rw [href, Option.bind_some, hj]
        exact List.mem_append_left _ (List.mem_append_left _ List.mem_cons_self)
      have hrefs := Registry.mem_refs hnode (Node.ref?_of_keywords hbody href)
      have hcard := Registry.card_refsFrom_lt hacyclic hrefs
        (Registry.inPlace_of_mem hnode hbody hplace)
      rw [EvalStack.depth_pushFrame]
      dsimp only
      omega

theorem ComesTo.needed_le (hacyclic : registry.Acyclic) {m m' : Moment}
    (h : ComesTo registry limit m m') : needed registry m'.call ≤ needed registry m.call := by
  induction h with
  | refl => exact Nat.le_refl _
  | tail _ hrun ih => exact Nat.le_trans (hrun.nests.needed_le hacyclic) ih

/-- Where there is an overflow, a reference is at hand. -/
theorem depth_lt_needed {m : Moment} {l : Nat} (h : Fails registry limit m (.stackOverflow l)) :
    limit ≤ m.call.places.depth ∧ m.call.places.depth < needed registry m.call := by
  cases h with
  | @overflow k ref j hopens href hj hd =>
      obtain ⟨_, node, hnode, hbody⟩ := hopens
      have hrefs := Registry.mem_refs hnode (Node.ref?_of_keywords hbody href)
      have hself := Registry.self_mem_refsFrom hrefs
      have hpos := Finset.card_pos.mpr ⟨_, hself⟩
      refine ⟨hd, ?_⟩
      unfold needed
      omega

theorem needed_start (registry : Registry) (frame : Frame) (i : Nat) (v : Value) :
    needed registry (.start frame i v) ≤ registry.refs.card * (v.height + 1) + 1 := by
  have hcard := registry.card_refsFrom_le i
  have hdepth : (EvalStack.empty.pushFrame frame).depth = 1 := rfl
  unfold needed Call.start
  dsimp only
  rw [hdepth, Nat.mul_add, Nat.mul_one]
  omega

theorem evaluate_ne_overflow (hs : registry.Sound) (hacyclic : registry.Acyclic) {v : Value}
    (hlimit : registry.refs.card * (v.height + 1) < limit) (cap : Nat) (frame : Frame) (i l : Nat) :
    registry.evaluate limit cap frame i v ≠ .error (.stackOverflow l) := by
  intro h
  obtain ⟨m, hcomes, hfails⟩ := (evaluate_eq_error hs).mp h
  obtain ⟨hdepth, hlt⟩ := depth_lt_needed hfails
  have hle := hcomes.needed_le hacyclic
  have hstart : needed registry (Moment.start frame i v cap).call ≤ _ :=
    needed_start registry frame i v
  omega

end Eval

/-- **The limit on frames does not stop a validation that would end without it.** If no node can
come back to itself in place, and the limit exceeds the number of references times the number of
levels of the instance, there is no overflow, whatever the cap is. -/
theorem acyclic_never_overflows (documents : List Value) (config : Config) (validator : Validator)
    (h : Validator.ofDocuments documents config = .ok validator)
    (hacyclic : validator.bundle.registry.Acyclic) (v : Value)
    (hlimit : validator.bundle.registry.refs.card * (v.height + 1) < config.maxStackDepth) :
    (∀ l, validator.validate v ≠ .error (.stackOverflow l)) ∧
      ∀ selector l, validator.validateAt selector v ≠ .error (.stackOverflow l) := by
  obtain ⟨hs, _, rfl⟩ := sound_of_ofDocuments h
  have hrun := Eval.evaluate_ne_overflow hs hacyclic hlimit validator.config.maxErrors
  refine ⟨fun l he => ?_, fun selector l he => ?_⟩
  · unfold Validator.validate at he
    cases hr : validator.bundle.roots.getLast? with
    | none => rw [hr] at he; cases he
    | some root => rw [hr] at he; exact hrun _ _ l he
  · unfold Validator.validateAt at he
    cases ht : Target.ofSelector selector with
    | error cause => rw [ht] at he; cases he
    | ok target =>
        rw [ht] at he
        dsimp only at he
        cases hi : validator.bundle.registry.lookup target.key with
        | none => rw [hi] at he; cases he
        | some i => rw [hi] at he; exact hrun _ _ l he

/-- A tree, whose schema leads back to itself for the children. -/
def tree : Value :=
  .object [("allOf", .array [.bool true]),
    ("properties", .object [("children", .object [("items", .object [("$ref", .string "#")])])])]

def twoLevels : Value :=
  .object [("children", .array [.object [("children", .array [])]])]

/-- The reference is the node with index 1, and it leads to the root, which has index 3. -/
theorem acyclic_never_overflows_tree : ∃ validator,
    Validator.ofDocuments [tree] { maxStackDepth := 5 } = .ok validator ∧
      validator.bundle.registry.Acyclic ∧
      validator.bundle.registry.refs.card * (twoLevels.height + 1) < 5 ∧
      ∀ l, validator.validate twoLevels ≠ .error (.stackOverflow l) := by
  have hchecks : (Validator.ofDocuments [tree] { maxStackDepth := 5 }).toOption.map
      (fun validator => decide (validator.bundle.registry.refs.card = 1) &&
        decide (∀ i < validator.bundle.registry.size, ∀ j ∈ validator.bundle.registry.inPlace i,
          (if j = 1 then 4 else j) < if i = 1 then 4 else i)) = some true := by
    decide +kernel
  cases hv : Validator.ofDocuments [tree] { maxStackDepth := 5 } with
  | error e => rw [hv] at hchecks; exact nomatch hchecks
  | ok validator =>
      rw [hv] at hchecks
      obtain ⟨hcard, hrank⟩ := (Bool.and_eq_true _ _).mp (Option.some.inj hchecks)
      have hacyclic := Registry.acyclic_of_rank (fun i => if i = 1 then 4 else i)
        (of_decide_eq_true hrank)
      have hlimit : validator.bundle.registry.refs.card * (twoLevels.height + 1) < 5 := by
        rw [of_decide_eq_true hcard]
        decide
      refine ⟨validator, rfl, hacyclic, hlimit, ?_⟩
      exact (acyclic_never_overflows [tree] _ validator hv hacyclic twoLevels hlimit).1

end JsonSchema
