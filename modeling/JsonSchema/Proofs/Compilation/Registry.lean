import JsonSchema.Proofs.Addressing.Key
import JsonSchema.Proofs.Compilation.Subschemas

/-!
# What a registry represents

A registry is faithful if every node in it was compiled from a schema that stands at the place whose
key it has. `stands here v` says that the schema `v` stands at `here`. The sub-schemas of a node
were compiled before it, so they have smaller indices; and a reference, once it is linked, has the
index of the node with the key of its target.

Compiling schemas and linking references keep a registry faithful, and a key that has an index keeps
it.
-/

namespace JsonSchema

theorem Node.ref?_of_keywords {node : Node} {k : Keywords} {ref : Reference}
    (hk : node.body = .keywords k) (href : k.ref = some ref) : node.ref? = some ref := by
  unfold ref?
  rw [hk]
  exact href

namespace Registry

theorem lt_size_of_get? {r : Registry} {i : Nat} {node : Node} (h : r.get? i = some node) :
    i < r.size := by
  obtain ⟨hi, _⟩ := Array.getElem?_eq_some_iff.mp h
  exact hi

/-! ## The index -/

/-- The index of a key is the one of a node with this key. -/
def Coherent (r : Registry) : Prop :=
  ∀ key i, r.lookup key = some i → ∃ node, r.get? i = some node ∧ node.uri = key

theorem coherent_empty : Coherent .empty := fun _ _ h => nomatch h

theorem Coherent.lt_size {r : Registry} (h : r.Coherent) {key : String} {i : Nat}
    (hi : r.lookup key = some i) : i < r.size := by
  obtain ⟨_, hnode, _⟩ := h _ _ hi
  exact lt_size_of_get? hnode

/-- A node is the node of one place at most. -/
theorem Coherent.eq_of_lookup {r : Registry} (h : r.Coherent) {s t : Target} {i : Nat}
    (hs : r.lookup s.key = some i) (ht : r.lookup t.key = some i) : s = t := by
  obtain ⟨node, hnode, huri⟩ := h _ _ hs
  obtain ⟨node', hnode', huri'⟩ := h _ _ ht
  rw [hnode] at hnode'
  cases hnode'
  exact Target.key_injective (huri.symm.trans huri')

/-- Keys keep their indices. -/
def Grows (r r' : Registry) : Prop :=
  ∀ key i, r.lookup key = some i → r'.lookup key = some i

theorem Grows.refl (r : Registry) : r.Grows r := fun _ _ h => h

theorem Grows.trans {a b c : Registry} (h : a.Grows b) (h' : b.Grows c) : a.Grows c :=
  fun key i hi => h' key i (h key i hi)

theorem Grows.isSome {r r' : Registry} (h : r.Grows r') {key : String}
    (hkey : (r.lookup key).isSome = true) : (r'.lookup key).isSome = true := by
  obtain ⟨i, hi⟩ := Option.isSome_iff_exists.mp hkey
  rw [h key i hi]
  rfl

/-- A key that has no index in the end has had none. -/
theorem Grows.eq_none {r r' : Registry} (h : r.Grows r') {key : String}
    (hkey : r'.lookup key = none) : r.lookup key = none := by
  cases hl : r.lookup key with
  | none => rfl
  | some i => rw [h key i hl] at hkey; cases hkey

theorem lookup_push (r : Registry) (node : Node) (key : String) :
    (r.push node).lookup key = if key = node.uri then some r.size else r.lookup key :=
  Members.get?_set _ _ _ _

theorem get?_push (r : Registry) (node : Node) (i : Nat) :
    (r.push node).get? i = if i = r.size then some node else r.get? i :=
  Array.getElem?_push

/-- The key of the new node leads to it, and all others lead where they did. -/
theorem Coherent.push {r : Registry} (h : r.Coherent) (node : Node) : (r.push node).Coherent := by
  intro key i hi
  rw [lookup_push] at hi
  rw [get?_push]
  by_cases hkey : key = node.uri
  · rw [if_pos hkey] at hi
    cases hi
    exact ⟨node, if_pos rfl, hkey.symm⟩
  · rw [if_neg hkey] at hi
    rw [if_neg (Nat.ne_of_lt (h.lt_size hi))]
    exact h _ _ hi

theorem Coherent.add {r : Registry} (h : r.Coherent) (node : Node) : (r.add node).2.Coherent := by
  unfold Registry.add
  cases r.lookup node.uri with
  | some i => exact h
  | none => exact h.push node

theorem grows_push {r : Registry} {node : Node} (hnew : r.lookup node.uri = none) :
    r.Grows (r.push node) := by
  intro key i h
  -- the key is not the new one, which has no index yet
  have hne : key ≠ node.uri := by
    rintro rfl
    rw [hnew] at h
    cases h
  rw [lookup_push, if_neg hne]
  exact h

theorem grows_add (r : Registry) (node : Node) : r.Grows (r.add node).2 := by
  unfold add
  cases hl : r.lookup node.uri with
  | some i => exact Grows.refl r
  | none => exact grows_push hl

/-- The index that is given is the one of the key. -/
theorem lookup_add (r : Registry) (node : Node) :
    (r.add node).2.lookup node.uri = some (r.add node).1 := by
  unfold add
  cases hl : r.lookup node.uri with
  | some i => exact hl
  | none => exact (lookup_push r node node.uri).trans (if_pos rfl)

/-- A node that is added is found under its key, since there was none with it. -/
theorem found_push {r : Registry}
    (h : ∀ {i node}, r.get? i = some node → r.lookup node.uri = some i) {node : Node}
    (hnew : r.lookup node.uri = none) {i : Nat} {other : Node}
    (hi : (r.push node).get? i = some other) : (r.push node).lookup other.uri = some i := by
  rw [get?_push] at hi
  by_cases hsize : i = r.size
  · rw [if_pos hsize] at hi
    cases hi
    rw [lookup_push, if_pos rfl, hsize]
  · rw [if_neg hsize] at hi
    exact grows_push hnew _ _ (h hi)

/-- The nodes of the one come first in the other. -/
def Extends (r r' : Registry) : Prop := r.nodes.toList <+: r'.nodes.toList

theorem Extends.refl (r : Registry) : r.Extends r := List.prefix_refl _

theorem Extends.trans {a b c : Registry} (h : a.Extends b) (h' : b.Extends c) : a.Extends c :=
  List.IsPrefix.trans h h'

theorem extends_push (r : Registry) (node : Node) : r.Extends (r.push node) := by
  show r.nodes.toList <+: (r.nodes.push node).toList
  rw [Array.toList_push]
  exact List.prefix_append _ _

theorem extends_add (r : Registry) (node : Node) : r.Extends (r.add node).2 := by
  unfold add
  cases r.lookup node.uri with
  | some i => exact Extends.refl r
  | none =>
      exact extends_push r node

/-- The nodes of the one have the same indices in the other. -/
theorem Extends.get? {r r' : Registry} (h : r.Extends r') {i : Nat} (hi : i < r.size) :
    r'.get? i = r.get? i := by
  obtain ⟨more, hmore⟩ := h
  show r'.nodes[i]? = r.nodes[i]?
  rw [← Array.getElem?_toList, ← Array.getElem?_toList, ← hmore, List.getElem?_append_left hi]

theorem Extends.size_le {r r' : Registry} (h : r.Extends r') : r.size ≤ r'.size :=
  List.IsPrefix.length_le h

/-- The index that is given is the one of a node. -/
theorem Coherent.fst_add_lt {r : Registry} (h : r.Coherent) (node : Node) :
    (r.add node).1 < (r.add node).2.size := (h.add node).lt_size (r.lookup_add node)

/-! ## Faithful registries -/

/-- The index of a place, if it is below a bound. -/
def IndexBelow (r : Registry) (bound : Nat) (place : Target) (i : Nat) : Prop :=
  i < bound ∧ r.lookup place.key = some i

/-- The reference leads where the other one leads, and if it is linked, then to the node there. -/
structure LinkedFrom (r : Registry) (ref ref' : Reference) : Prop where
  /-- Both lead to the same place. -/
  target : ref'.target = ref.target
  /-- The link leads there, too. -/
  resolved : ∀ i, ref'.resolved = some i → r.lookup ref'.target.key = some i

/-- The body of the node with index `i` is what compiling the schema at `here` gives, apart from the
links of references. -/
inductive Represents (r : Registry) (i : Nat) (here : Target) : Value → Body → Prop where
  /-- A schema that is a truth value. -/
  | bool (b : Bool) : Represents r i here (.bool b) (.bool b)
  /-- A schema with keywords. -/
  | keywords {members : Members Value} {k : Keywords} {ref : Option Reference} :
      (Compile.keywords here members).Yields (r.IndexBelow i) { k with ref } →
      Option.Rel r.LinkedFrom ref k.ref → Represents r i here (.object members) (.keywords k)

/-- Every node was compiled from a schema, and is the one that is found under its key. -/
structure Faithful (stands : Target → Value → Prop) (r : Registry) : Prop where
  /-- What is found under a key is a node that has it. -/
  coherent : r.Coherent
  /-- A node is found under its key. -/
  found : ∀ {i node}, r.get? i = some node → r.lookup node.uri = some i
  /-- A node represents a schema. -/
  compiled : ∀ {i node}, r.get? i = some node →
    ∃ here v, node.uri = here.key ∧ stands here v ∧ r.Represents i here v node.body

theorem IndexBelow.grows {r r' : Registry} (h : r.Grows r') {bound : Nat} {place : Target} {i : Nat}
    (hi : r.IndexBelow bound place i) : r'.IndexBelow bound place i :=
  ⟨hi.1, h _ _ hi.2⟩

theorem LinkedFrom.grows {r r' : Registry} (h : r.Grows r') {ref ref' : Reference}
    (hl : r.LinkedFrom ref ref') : r'.LinkedFrom ref ref' :=
  ⟨hl.target, fun i hi => h _ _ (hl.resolved i hi)⟩

theorem Represents.grows {r r' : Registry} (h : r.Grows r') {i : Nat} {here : Target} {v : Value}
    {body : Body} (hr : r.Represents i here v body) : r'.Represents i here v body := by
  cases hr with
  | bool b => exact .bool b
  | keywords hk hl =>
      -- what the keywords are does not change, and the indices they were given stay
      refine .keywords (hk.mono fun _ _ => IndexBelow.grows h) ?_
      generalize Keywords.ref _ = ref' at hl ⊢
      cases hl with
      | none => exact .none
      | some hl => exact .some (hl.grows h)

/-- The link of a reference is the index of the node with its key. -/
theorem Faithful.lookup_of_resolved {r : Registry} {stands : Target → Value → Prop}
    (h : r.Faithful stands) {i j : Nat} {node : Node} {ref : Reference}
    (hn : r.get? i = some node) (href : node.ref? = some ref) (hj : ref.resolved = some j) :
    r.lookup ref.target.key = some j := by
  obtain ⟨_, _, _, _, hrep⟩ := h.compiled hn
  obtain ⟨uri, body⟩ := node
  cases hrep with
  | bool b => exact nomatch href
  | keywords _ hl =>
      rw [show Keywords.ref _ = some ref from href] at hl
      cases hl with
      | some hl => exact hl.resolved j hj

/-- A node is the one of some place. -/
theorem Faithful.exists_place {r : Registry} {stands : Target → Value → Prop}
    (h : r.Faithful stands) {i : Nat} {node : Node} (hn : r.get? i = some node) :
    ∃ here : Target, node.uri = here.key ∧ r.lookup here.key = some i := by
  obtain ⟨here, _, huri, _, _⟩ := h.compiled hn
  refine ⟨here, huri, ?_⟩
  rw [← huri]
  exact h.found hn

theorem Faithful.mono {stands stands' : Target → Value → Prop} {r : Registry}
    (h : r.Faithful stands) (hs : ∀ here v, stands here v → stands' here v) :
    r.Faithful stands' where
  coherent := h.coherent
  found := h.found
  compiled hn := by
    obtain ⟨here, v, huri, hv, hrep⟩ := h.compiled hn
    exact ⟨here, v, huri, hs here v hv, hrep⟩

theorem faithful_empty (stands : Target → Value → Prop) : Faithful stands .empty where
  coherent := coherent_empty
  found h := nomatch h
  compiled h := nomatch h

end Registry

end JsonSchema
