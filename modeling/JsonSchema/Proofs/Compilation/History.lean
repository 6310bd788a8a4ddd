import JsonSchema.Proofs.Compilation.Operations

/-!
# The course of a registry

Every operation on a registry is a course of single changes: a node with a new key comes last, or
one node is linked. This is so for an operation that fails, too, and the registries on the way are
those that can be met while it is going on.

A change leaves every node where it is, with its key and all its keywords. All that can happen to a
node is that its open reference is linked, and what is linked stays so.
-/

namespace JsonSchema

/-! ## What stays of a node -/

/-- The second node is what the first one can become: the same, or itself with its open reference
linked. -/
inductive Node.Becomes : Node → Node → Prop where
  /-- Nothing has happened to the node. -/
  | same (node : Node) : Becomes node node
  /-- Its reference has been linked. -/
  | linked (uri : String) (k : Keywords) (target : Target) (j : Nat) :
      Becomes { uri, body := .keywords { k with ref := some { target, resolved := none } } }
        { uri, body := .keywords { k with ref := some { target, resolved := some j } } }

namespace Node

variable {a b c : Node}

theorem Becomes.trans (h : a.Becomes b) (h' : b.Becomes c) : a.Becomes c := by
  cases h with
  | same => exact h'
  | linked uri k target j =>
      -- a reference that is linked is not linked again
      cases h' with
      | same => exact .linked uri k target j

/-- The sub-schemas stay the same. -/
theorem Becomes.exists_keywords (h : a.Becomes b) {k : Keywords} (hk : b.body = .keywords k) :
    ∃ k', a.body = .keywords k' ∧ k'.children = k.children := by
  cases h with
  | same => exact ⟨k, hk, rfl⟩
  | linked uri k' target j =>
      cases hk
      exact ⟨_, rfl, rfl⟩

end Node

namespace Registry

/-- Every node is still where it was, and nothing has happened to it but that its reference may have
been linked. -/
def Keeps (r r' : Registry) : Prop :=
  ∀ {i node}, r.get? i = some node → ∃ node', r'.get? i = some node' ∧ node.Becomes node'

variable {r r' r'' : Registry}

theorem Keeps.refl (r : Registry) : r.Keeps r := fun {_ node} hi => ⟨node, hi, .same node⟩

theorem Keeps.trans (h : r.Keeps r') (h' : r'.Keeps r'') : r.Keeps r'' := by
  intro i node hi
  obtain ⟨node', hi', hnode⟩ := h hi
  obtain ⟨node'', hi'', hnode'⟩ := h' hi'
  exact ⟨node'', hi'', hnode.trans hnode'⟩

theorem keeps_push (r : Registry) (node : Node) : r.Keeps (r.push node) := by
  intro i old hi
  refine ⟨old, ?_, .same old⟩
  have hlt := lt_size_of_get? hi
  rw [get?_push, if_neg (Nat.ne_of_lt hlt)]
  exact hi

/-! ## Linking one node -/

theorem becomes_linkRef (r : Registry) (uri : String) (k : Keywords) (o : Option Reference) :
    Node.Becomes { uri, body := .keywords { k with ref := o } }
      { uri, body := .keywords { k with ref := o.map r.linkRef } } := by
  cases o with
  | none => exact .same _
  | some ref =>
      obtain ⟨target, resolved⟩ := ref
      cases resolved with
      | some j => exact .same _
      | none =>
          -- the reference is open, and is linked if its target has a node
          show Node.Becomes _
            { uri, body := .keywords { k with ref := some ⟨target, r.lookup target.key⟩ } }
          cases r.lookup target.key with
          | none => exact .same _
          | some j => exact .linked uri k target j

theorem becomes_linkNode (r : Registry) (node : Node) : node.Becomes (r.linkNode node) := by
  obtain ⟨uri, body⟩ := node
  cases body with
  | bool b => exact .same _
  | keywords k => exact becomes_linkRef r uri k k.ref

/-- Links the reference of the node with an index. -/
def linkAt (r : Registry) (i : Nat) : Registry := { r with nodes := r.nodes.modify i r.linkNode }

theorem get?_linkAt (r : Registry) (i j : Nat) :
    (r.linkAt i).get? j = if i = j then (r.get? j).map r.linkNode else r.get? j :=
  Array.getElem?_modify

theorem get?_linkAt_eq_some {i j : Nat} {node : Node} (h : (r.linkAt i).get? j = some node) :
    ∃ old, r.get? j = some old ∧ (node = old ∨ node = r.linkNode old) := by
  rw [get?_linkAt] at h
  split at h
  · obtain ⟨old, hold, rfl⟩ := Option.map_eq_some_iff.mp h
    exact ⟨old, hold, .inr rfl⟩
  · exact ⟨node, h, .inl rfl⟩

theorem keeps_linkAt (r : Registry) (i : Nat) : r.Keeps (r.linkAt i) := by
  intro j node hj
  rw [get?_linkAt, hj]
  by_cases hij : i = j
  · rw [if_pos hij]
    exact ⟨r.linkNode node, rfl, becomes_linkNode r node⟩
  · rw [if_neg hij]
    exact ⟨node, rfl, .same node⟩

/-- The index of keys is left alone. -/
theorem lookup_linkAt (r : Registry) (i : Nat) (key : String) :
    (r.linkAt i).lookup key = r.lookup key := rfl

/-- A node that is linked keeps its key. -/
theorem Coherent.linkAt (h : r.Coherent) (i : Nat) : (r.linkAt i).Coherent := by
  intro key j hj
  obtain ⟨node, hnode, huri⟩ := h key j hj
  rw [get?_linkAt, hnode]
  by_cases hij : i = j
  · rw [if_pos hij]
    exact ⟨r.linkNode node, rfl, (uri_linkNode r node).trans huri⟩
  · rw [if_neg hij]
    exact ⟨node, rfl, huri⟩

/-- What a node is linked to does not depend on which nodes have been linked before. -/
theorem linkNode_linkAt (r : Registry) (i : Nat) : (r.linkAt i).linkNode = r.linkNode := by
  have href : (r.linkAt i).linkRef = r.linkRef := by
    funext ref
    unfold linkRef
    rw [lookup_linkAt]
  funext node
  unfold linkNode
  rw [href]

/-- The registry once its first nodes have been linked. -/
def linkFirst (r : Registry) (n : Nat) : Registry := (List.range n).foldl linkAt r

theorem linkFirst_succ (r : Registry) (n : Nat) :
    r.linkFirst (n + 1) = (r.linkFirst n).linkAt n := by
  unfold linkFirst
  rw [List.range_succ, List.foldl_append]
  rfl

theorem linkNode_linkFirst (r : Registry) (n : Nat) : (r.linkFirst n).linkNode = r.linkNode := by
  induction n with
  | zero => rfl
  | succ n ih => rw [linkFirst_succ, linkNode_linkAt, ih]

theorem get?_linkFirst (r : Registry) (n i : Nat) :
    (r.linkFirst n).get? i = if i < n then (r.get? i).map r.linkNode else r.get? i := by
  induction n with
  | zero => rfl
  | succ n ih =>
      rw [linkFirst_succ, get?_linkAt, linkNode_linkFirst, ih]
      by_cases hi : n = i
      · -- the node that is linked in this step was not linked before
        rw [if_pos hi, if_neg (by omega), if_pos (by omega)]
      · rw [if_neg hi]
        by_cases hlt : i < n
        · rw [if_pos hlt, if_pos (by omega)]
        · rw [if_neg hlt, if_neg (by omega)]

/-- Linking links one node after another. -/
theorem link_eq_linkFirst (r : Registry) : r.link.2 = r.linkFirst r.size := by
  have hindex : ∀ n, (r.linkFirst n).byUri = r.byUri := by
    intro n
    induction n with
    | zero => rfl
    | succ n ih => rw [linkFirst_succ]; exact ih
  refine Registry.ext (Array.ext_getElem? fun i => ?_) (hindex r.size).symm
  show r.link.2.get? i = (r.linkFirst r.size).get? i
  rw [get?_link, get?_linkFirst]
  by_cases hi : i < r.size
  · rw [if_pos hi]
  · have hnone : r.get? i = none := Array.getElem?_eq_none (Nat.le_of_not_lt hi)
    rw [if_neg hi, hnone]
    rfl

/-! ## Changes -/

/-- A single change of a registry. -/
inductive Changes (r : Registry) : Registry → Prop where
  /-- A node with a new key comes last. Its sub-schemas are there, and it is not linked. -/
  | push {node : Node} : r.lookup node.uri = none → r.Takes node → Changes r (r.push node)
  /-- One node is linked. -/
  | link (i : Nat) : Changes r (r.linkAt i)

/-- What can become of a registry. -/
abbrev Course : Registry → Registry → Prop := Relation.ReflTransGen Changes

theorem Changes.keeps (h : r.Changes r') : r.Keeps r' := by
  cases h with
  | push _ _ => exact keeps_push r _
  | link i => exact keeps_linkAt r i

/-- **In the course of a registry its nodes are kept.** -/
theorem keeps_of_course (h : Course r r') : r.Keeps r' := by
  induction h with
  | refl => exact Keeps.refl r
  | tail _ hstep ih => exact ih.trans hstep.keeps

theorem course_add {node : Node} (ht : r.Takes node) : Course r (r.add node).2 := by
  unfold Registry.add
  cases hl : r.lookup node.uri with
  | some i => exact .refl
  | none => exact .single (.push hl ht)

theorem course_adds (h : Relation.ReflTransGen Compile.Adds r r') : Course r r' := by
  induction h with
  | refl => exact .refl
  | tail _ hstep ih =>
      cases hstep with
      | node uri hbody => exact ih.trans (course_add (takes_of_readBelow hbody))

theorem course_linkFirst (r : Registry) (n : Nat) : Course r (r.linkFirst n) := by
  induction n with
  | zero => exact .refl
  | succ n ih =>
      rw [linkFirst_succ]
      exact ih.tail (.link n)

/-- **Every operation is a course of changes**, whether it succeeds or not. -/
theorem course_apply (hr : r.Coherent) (operation : Operation) : Course r (operation.apply r) := by
  cases operation with
  | compileRoot document =>
      have hadds := adds_placed { base := .anonymous, pointer := .root } document hr
      rw [← snd_run_map _ (fun p => ({ base := p.1, index := p.2 } : Root))] at hadds
      exact course_adds hadds
  | compileAt here v =>
      have hadds := adds_placed here v hr
      rw [← snd_run_map _ Prod.snd] at hadds
      exact course_adds hadds
  | addBool uri b => exact course_add (takes_bool r uri b)
  | addRef uri target => exact course_add (takes_ref r uri target)
  | link =>
      show Course r r.link.2
      rw [link_eq_linkFirst]
      exact course_linkFirst r r.size

theorem Coherent.changes (h : r.Coherent) (hstep : r.Changes r') : r'.Coherent := by
  cases hstep with
  | push _ _ => exact h.push _
  | link i => exact h.linkAt i

theorem Coherent.course (h : r.Coherent) (hcourse : Course r r') : r'.Coherent := by
  induction hcourse with
  | refl => exact h
  | tail _ hstep ih => exact ih.changes hstep

theorem course_foldl (hr : r.Coherent) (operations : List Operation) :
    Course r (operations.foldl Operation.apply r) := by
  induction operations generalizing r with
  | nil => exact .refl
  | cons operation rest ih =>
      have hstep := course_apply hr operation
      exact hstep.trans (ih (hr.course hstep))

/-! ## Sound registries stay sound -/

/-- The link of a node that has been linked is an old one, or leads to the node with the key of its
target. -/
theorem resolved_linkNode {node : Node} {ref : Reference} {j : Nat}
    (href : (r.linkNode node).ref? = some ref) (hj : ref.resolved = some j) :
    node.ref? = some ref ∨ r.lookup ref.target.key = some j := by
  obtain ⟨uri, body⟩ := node
  cases body with
  | bool b => exact nomatch href
  | keywords k =>
      obtain ⟨own, hown, rfl⟩ := Option.map_eq_some_iff.mp href
      unfold linkRef at hj ⊢
      split at hj
      · rename_i hopen
        rw [if_pos hopen]
        exact .inr hj
      · rename_i hopen
        rw [if_neg hopen]
        exact .inl hown

theorem Sound.linkAt (h : r.Sound) (i : Nat) : (r.linkAt i).Sound where
  coherent := h.coherent.linkAt i
  found := by
    intro j node hj
    obtain ⟨old, hold, rfl | rfl⟩ := get?_linkAt_eq_some hj
    · rw [lookup_linkAt]
      exact h.found hold
    · rw [lookup_linkAt, uri_linkNode]
      exact h.found hold
  children := by
    intro j node k hj hk c hc
    obtain ⟨old, hold, rfl | rfl⟩ := get?_linkAt_eq_some hj
    · exact h.children hold hk c hc
    · -- linking leaves the sub-schemas alone
      obtain ⟨k', hk', hchildren⟩ := (becomes_linkNode r old).exists_keywords hk
      exact h.children hold hk' c (hchildren ▸ hc)
  linked := by
    intro j node ref c hj href hc
    rw [lookup_linkAt]
    obtain ⟨old, hold, rfl | rfl⟩ := get?_linkAt_eq_some hj
    · exact h.linked hold href hc
    · rcases resolved_linkNode href hc with href | hfound
      · exact h.linked hold href hc
      · exact hfound

theorem Sound.changes (h : r.Sound) (hstep : r.Changes r') : r'.Sound := by
  cases hstep with
  | push hnew ht => exact h.push hnew ht
  | link i => exact h.linkAt i

theorem Sound.course (h : r.Sound) (hcourse : Course r r') : r'.Sound := by
  induction hcourse with
  | refl => exact h
  | tail _ hstep ih => exact ih.changes hstep

/-- **Whatever is done to a registry, it is sound.** -/
theorem sound_after (operations : List Operation) : (after operations).Sound :=
  sound_empty.course (course_foldl coherent_empty operations)

/-! ## The course of all operations -/

/-- What holds of a registry at every moment. -/
structure Consistent (r : Registry) : Prop where
  /-- No two nodes have the same key. -/
  distinct : (r.nodes.toList.map Node.uri).Nodup
  /-- A key leads to the node that has it. -/
  lookup_iff : ∀ uri i, r.lookup uri = some i ↔ ∃ node, r.get? i = some node ∧ node.uri = uri
  /-- The sub-schemas of a node come before it. -/
  children : ∀ {i node k}, r.get? i = some node → node.body = .keywords k →
    ∀ j ∈ k.children, j < i
  /-- A link leads to a node that has the key of the target. -/
  linked : ∀ {i node ref j}, r.get? i = some node → node.ref? = some ref →
    ref.resolved = some j → j < r.size ∧ ∃ target, r.get? j = some target ∧
      target.uri = ref.target.key

theorem Sound.distinct (h : r.Sound) : (r.nodes.toList.map Node.uri).Nodup := by
  have hfound : ∀ i (hi : i < (r.nodes.toList.map Node.uri).length),
      r.lookup (r.nodes.toList.map Node.uri)[i] = some i := by
    intro i hi
    rw [List.getElem_map]
    exact h.found (Array.getElem?_eq_getElem (by simpa using hi))
  -- a key that occurs twice would lead to both nodes
  refine List.nodup_iff_injective_getElem.mpr fun ⟨i, hi⟩ ⟨j, hj⟩ heq => Fin.ext ?_
  have hsame := hfound j hj
  rw [← show (r.nodes.toList.map Node.uri)[i] = (r.nodes.toList.map Node.uri)[j] from heq,
    hfound i hi] at hsame
  exact Option.some.inj hsame

theorem Sound.consistent (h : r.Sound) : r.Consistent where
  distinct := h.distinct
  lookup_iff := by
    refine fun uri i => ⟨h.coherent uri i, ?_⟩
    rintro ⟨node, hnode, rfl⟩
    exact h.found hnode
  children := h.children
  linked := by
    intro i node ref j hi href hj
    have hfound := h.linked hi href hj
    exact ⟨h.coherent.lt_size hfound, h.coherent _ _ hfound⟩

/-- **At every moment a registry is consistent, and from then on its nodes are kept.** The same
holds while an operation is going on: each one is a course of single changes, also if it fails
half-way, and every registry that is met on the course is consistent and keeps the nodes of those
before it. -/
theorem consistent_and_kept (earlier later : List Operation) :
    (after earlier).Consistent ∧ (after earlier).Keeps (after (earlier ++ later)) ∧
      Course .empty (after earlier) ∧ Course (after earlier) (after (earlier ++ later)) ∧
      ∀ r r', Course .empty r → Course r r' → r'.Consistent ∧ r.Keeps r' := by
  have hearlier : Course .empty (after earlier) := course_foldl coherent_empty earlier
  have hlater : Course (after earlier) (after (earlier ++ later)) := by
    unfold after
    rw [List.foldl_append]
    exact course_foldl (coherent_empty.course hearlier) later
  refine ⟨(sound_after earlier).consistent, keeps_of_course hlater, hearlier, hlater, ?_⟩
  intro r r' hr hr'
  exact ⟨(sound_empty.course (hr.trans hr')).consistent, keeps_of_course hr'⟩

/-- A compilation that fails when a node has been added, a reference to the root, and a document
with another schema at the place of the node. -/
def interrupted : List Operation :=
  [.compileRoot (.object [("not", .bool true), ("maxLength", .null)]),
    .addRef "urn:a" { base := .anonymous, pointer := .root },
    .compileRoot (.object [("not", .bool false)])]

/-- The registry is consistent when linking is half done, too. -/
theorem consistent_and_kept_interrupted :
    (after interrupted).byUri = [("#/not", 0), ("urn:a", 1), ("", 2)] ∧
      Course .empty (after interrupted) ∧
      Course (after interrupted) ((after interrupted).linkAt 1) ∧
      ((after interrupted).linkAt 1).Consistent ∧
      (after interrupted).Keeps ((after interrupted).linkAt 1) := by
  obtain ⟨_, _, hempty, _, hcourses⟩ := consistent_and_kept interrupted []
  have hlinked : Course (after interrupted) ((after interrupted).linkAt 1) := .single (.link 1)
  exact ⟨by decide +kernel, hempty, hlinked, hcourses _ _ hempty hlinked⟩

end Registry

end JsonSchema
