import JsonSchema.Proofs.Compilation.Grammar
import JsonSchema.Proofs.Compilation.History
import JsonSchema.Proofs.Compilation.Renumbering

/-!
# What a failed compilation leaves behind

A compilation that fails has added nodes for the schemas that were compiled before the error, and
they stay. A later compilation takes such a node where it finds one under the key of a place, and
does not look at what it was compiled from. If it was compiled from the very schema that stands
there, nothing has changed but the indices: the root that is given leads to the same nodes as if the
failed compilation had not been tried. If it was compiled from another schema, the later document
gets that one.
-/

namespace JsonSchema

open Compile Subschemas

/-! ## The schemas of a document -/

/-- The document has the schema `v` at `here`. -/
inductive Value.HasSchema (document : Value) : Target → Value → Prop
  /-- The document itself. -/
  | root {base : BaseUri} : documentBase .anonymous document = .ok base →
      HasSchema document { base, pointer := .root } document
  /-- What is inside a schema. -/
  | inside {here : Target} {members : Members Value} {p : Target × Value} :
      HasSchema document here (.object members) → p ∈ under here (Subschemas.inside members) →
      HasSchema document p.1 p.2

variable {document : Value} {here : Target} {v w : Value}

theorem closedInside_hasSchema (document : Value) : ClosedInside document.HasSchema :=
  fun _ _ hv _ hp => .inside hv hp

/-- A schema of a document is what the pointer leads to. -/
theorem Value.HasSchema.walk (h : document.HasSchema here v) (hd : document.Distinct) :
    Pointer.walk here.pointer.tokens document = some v ∧ v.Distinct := by
  induction h with
  | root _ => exact ⟨rfl, hd⟩
  | @inside here members p _ hp ih =>
      obtain ⟨q, hq, rfl⟩ := List.mem_map.mp hp
      obtain ⟨hwalk, hown⟩ := ih
      have hinside := (reached_inside hown q hq).2
      refine ⟨?_, distinct_inside hown hq⟩
      show Pointer.walk (here.pointer.tokens ++ q.1) document = some q.2
      rw [Pointer.walk_append, hwalk]
      exact hinside

theorem Value.HasSchema.unique (h : document.HasSchema here v) (h' : document.HasSchema here w)
    (hd : document.Distinct) : v = w :=
  Option.some.inj ((h.walk hd).1.symm.trans (h'.walk hd).1)

/-- Compiling a document adds nodes for its schemas, also if it fails. -/
theorem additions_compileRoot (document : Value) {r : Registry} (hr : r.Coherent) :
    Additions document.HasSchema r ((compileRoot document).run r).2 := by
  rw [run_compileRoot]
  cases hbase : documentBase .anonymous document with
  | error e => exact Additions.refl r
  | ok base =>
      have hadds := (within_adding (closedInside_hasSchema document) document.height
        { base, pointer := .root } document r (.root hbase) hr).1
      dsimp only
      generalize (within document.height { base, pointer := .root } document).run r = p at hadds ⊢
      obtain ⟨answer, r'⟩ := p
      cases answer <;> exact hadds

theorem sound_of_compileRoot {r r' : Registry} {answer : Except SchemaError Root} (hr : r.Sound)
    (h : (compileRoot document).run r = (answer, r')) : r'.Sound := by
  have hcourse := Registry.course_apply hr.coherent (.compileRoot document)
  have hresult : Registry.Operation.apply r (.compileRoot document) = r' := congrArg Prod.snd h
  rw [hresult] at hcourse
  exact hr.course hcourse

/-- In a document that has been compiled, every schema has a node. -/
theorem present_of_compileRoot {r r' : Registry} {root : Root}
    (h : (compileRoot document).run r = (.ok root, r')) :
    r'.lookup root.base.text = some root.index ∧
      ∀ here v, document.HasSchema here v → Present r' here v := by
  obtain ⟨hbase, hrun⟩ := compileRoot_eq_ok h
  have hleaves := within_leaves document.height { base := root.base, pointer := .root } document r
  rw [hrun] at hleaves
  obtain ⟨hpresent, hfound⟩ := hleaves.present root.index rfl
  refine ⟨hfound, fun here v hv => ?_⟩
  induction hv with
  | root hown =>
      cases hbase.symm.trans hown
      exact hpresent
  | inside _ hp ih =>
      obtain ⟨_, _, hinside⟩ := ih
      exact hinside _ rfl _ hp

/-- Whether a document compiles does not depend on the registry. -/
theorem exists_compileRoot_from {r r₁ : Registry} {root : Root}
    (h : (compileRoot document).run r = (.ok root, r₁)) (r' : Registry) :
    ∃ root' r₁', (compileRoot document).run r' = (.ok root', r₁') ∧ root'.base = root.base := by
  obtain ⟨hbase, hrun⟩ := compileRoot_eq_ok h
  have hwell : document.WellFormed root.base := by
    refine (within_isOk_iff { base := root.base, pointer := .root } document r).mp ?_
    rw [hrun]
    rfl
  have hok := (within_isOk_iff { base := root.base, pointer := .root } document r').mpr hwell
  obtain ⟨i, hi⟩ := exists_of_isOk hok
  rw [run_compileRoot, hbase]
  dsimp only
  generalize (within document.height { base := root.base, pointer := .root } document).run r' = p
    at hi ⊢
  obtain ⟨answer, r₁'⟩ := p
  cases hi
  exact ⟨{ base := root.base, index := i }, r₁', rfl, rfl⟩

namespace Registry

/-! ## The graph below a node -/

/-- The second index is the one of a sub-schema of the node with the first. -/
def HasChild (r : Registry) (i j : Nat) : Prop :=
  ∃ node, r.get? i = some node ∧ j ∈ node.body.children

/-- The index is reached from the root through sub-schemas. -/
abbrev Reaches (r : Registry) (root : Nat) : Nat → Prop := Relation.ReflTransGen r.HasChild root

/-- What is reached from the two roots is the same, up to renumbering. -/
def SameGraph (r : Registry) (root : Nat) (r' : Registry) (root' : Nat) : Prop :=
  ∃ σ : Nat → Nat, σ root = root' ∧
    Set.BijOn σ {i | r.Reaches root i} {i | r'.Reaches root' i} ∧
    ∀ i, r.Reaches root i →
      ∃ node, r.get? i = some node ∧ r'.get? (σ i) = some (node.renumber σ)

/-- The nodes of the one registry are in the other one, up to renumbering. -/
structure Embeds (σ : Nat → Nat) (r r' : Registry) : Prop where
  node : ∀ {i node}, r.get? i = some node → r'.get? (σ i) = some (node.renumber σ)
  injective : ∀ {i j}, i < r.size → j < r.size → σ i = σ j → i = j

variable {r r' r₁ r₂ : Registry} {σ : Nat → Nat} {S T : Target → Value → Prop}

theorem get?_of_lt {i : Nat} (h : i < r.size) : ∃ node, r.get? i = some node :=
  ⟨r.nodes[i], Array.getElem?_eq_getElem h⟩

/-- The sub-schemas of a node come before it. -/
theorem Sound.lt_of_children (h : r.Sound) {i j : Nat} {node : Node} (hi : r.get? i = some node)
    (hj : j ∈ node.body.children) : j < i := by
  obtain ⟨uri, body⟩ := node
  cases body with
  | bool b => exact absurd hj List.not_mem_nil
  | keywords k => exact h.children hi rfl j hj

/-- Links lead to nodes. -/
theorem Sound.lt_of_links (h : r.Sound) {i j : Nat} {node : Node} (hi : r.get? i = some node)
    (hj : j ∈ node.body.links) : j < r.size := by
  obtain ⟨uri, body⟩ := node
  cases body with
  | bool b => exact absurd hj List.not_mem_nil
  | keywords k =>
      obtain ⟨ref, href, hresolved⟩ := Option.bind_eq_some_iff.mp (Option.mem_toList.mp hj)
      exact h.lt_size hi href hresolved

theorem Sound.le_of_reaches (h : r.Sound) {root i : Nat} (hi : r.Reaches root i) : i ≤ root := by
  induction hi with
  | refl => exact Nat.le_refl _
  | tail _ hchild ih =>
      obtain ⟨node, hnode, hj⟩ := hchild
      have hlt := h.lt_of_children hnode hj
      omega

theorem Embeds.hasChild (h : Embeds σ r r') {i j : Nat} (hchild : r.HasChild i j) :
    r'.HasChild (σ i) (σ j) := by
  obtain ⟨node, hnode, hj⟩ := hchild
  refine ⟨node.renumber σ, h.node hnode, ?_⟩
  show σ j ∈ (node.body.renumber σ).children
  rw [Body.children_renumber]
  exact List.mem_map_of_mem hj

/-- A sub-schema of the counterpart is the counterpart of a sub-schema. -/
theorem Embeds.exists_child (h : Embeds σ r r') {i j' : Nat} (hi : i < r.size)
    (hchild : r'.HasChild (σ i) j') : ∃ j, r.HasChild i j ∧ σ j = j' := by
  obtain ⟨node, hnode⟩ := get?_of_lt hi
  obtain ⟨node', hnode', hj'⟩ := hchild
  rw [h.node hnode] at hnode'
  cases hnode'
  have hmap : j' ∈ (node.body.renumber σ).children := hj'
  rw [Body.children_renumber] at hmap
  obtain ⟨j, hj, rfl⟩ := List.mem_map.mp hmap
  exact ⟨j, ⟨node, hnode, hj⟩, rfl⟩

/-- Along the way to what is reached from the counterpart, each step has its counterpart. -/
theorem Embeds.exists_reaches (h : Embeds σ r r') (hsound : r.Sound) {root j' : Nat}
    (hroot : root < r.size) (hj' : r'.Reaches (σ root) j') :
    ∃ j, r.Reaches root j ∧ j < r.size ∧ σ j = j' := by
  induction hj' with
  | refl => exact ⟨root, .refl, hroot, rfl⟩
  | tail _ hchild ih =>
      obtain ⟨i, hi, hlt, rfl⟩ := ih
      obtain ⟨j, hj, rfl⟩ := h.exists_child hlt hchild
      have hreaches := hi.tail hj
      exact ⟨j, hreaches, Nat.lt_of_le_of_lt (hsound.le_of_reaches hreaches) hroot, rfl⟩

/-- **The graph is the same where the registry is embedded.** -/
theorem Embeds.sameGraph (h : Embeds σ r r') (hsound : r.Sound) {root : Nat}
    (hroot : root < r.size) : r.SameGraph root r' (σ root) := by
  have hlt : ∀ {i}, r.Reaches root i → i < r.size := fun hi =>
    Nat.lt_of_le_of_lt (hsound.le_of_reaches hi) hroot
  refine ⟨σ, rfl, ⟨fun i hi => ?maps, fun i hi j hj heq => ?injective, fun j' hj' => ?onto⟩,
    fun i hi => ?node⟩
  case maps => exact Relation.ReflTransGen.lift σ (fun _ _ hchild => h.hasChild hchild) _ _ hi
  case injective => exact h.injective (hlt hi) (hlt hj) heq
  case onto =>
    obtain ⟨j, hj, _, rfl⟩ := h.exists_reaches hsound hroot hj'
    exact ⟨j, hj, rfl⟩
  case node =>
    obtain ⟨node, hnode⟩ := get?_of_lt (hlt hi)
    exact ⟨node, hnode, h.node hnode⟩

/-! ## Registries that have grown out of one -/

/-- The index that the key of a node has in the second registry. -/
def relocate (r₁ r₂ : Registry) (i : Nat) : Nat :=
  ((r₁.get? i).bind fun node => r₂.lookup node.uri).getD i

theorem relocate_of_lookup (hr : r₁.Coherent) {key : String} {i i' : Nat}
    (h : r₁.lookup key = some i) (h' : r₂.lookup key = some i') : relocate r₁ r₂ i = i' := by
  obtain ⟨node, hnode, rfl⟩ := hr _ _ h
  unfold relocate
  rw [hnode, Option.bind_some, h']
  rfl

/-- A key that leads to one of the first nodes has led there before. -/
theorem lookup_of_lt (hsound : r.Sound) (h : Additions S r r₁) {key : String} {i : Nat}
    (hi : r₁.lookup key = some i) (hlt : i < r.size) : r.lookup key = some i := by
  obtain ⟨node, hnode, rfl⟩ := h.coherent hsound.coherent _ _ hi
  rw [h.keeps.get? hlt] at hnode
  exact hsound.found hnode

/-- Two registries have grown out of one. Where the first one has a new node, the second one has
one, too, and if this is new, it is for the same schema. -/
structure Covers (S T : Target → Value → Prop) (r r₁ r₂ : Registry) : Prop where
  sound : r.Sound
  first : Additions S r r₁
  second : Additions T r r₂
  present : ∀ {here v}, S here v → (r₂.lookup here.key).isSome = true
  same : ∀ {i node here v w}, AddedFor T r r₂ i node here v → S here w → v = w

theorem Covers.coherent (h : Covers S T r r₁ r₂) : r₁.Coherent := h.first.coherent h.sound.coherent

/-- The first nodes stay where they are. -/
theorem Covers.relocate_of_lt (h : Covers S T r r₁ r₂) {i : Nat} (hlt : i < r.size) :
    relocate r₁ r₂ i = i := by
  obtain ⟨node, hnode⟩ := get?_of_lt hlt
  have hfound := h.sound.found hnode
  exact relocate_of_lookup h.coherent (h.first.grows _ _ hfound) (h.second.grows _ _ hfound)

/-- A new node has its counterpart under its key, and this is a new one. -/
theorem Covers.exists_added (h : Covers S T r r₁ r₂) {i : Nat} {node : Node} {here : Target}
    {v : Value} (hv : AddedFor S r r₁ i node here v) :
    r.size ≤ relocate r₁ r₂ i ∧ ∃ node', r₂.get? (relocate r₁ r₂ i) = some node' ∧
      AddedFor T r r₂ (relocate r₁ r₂ i) node' here v := by
  obtain ⟨i', hi'⟩ := Option.isSome_iff_exists.mp (h.present hv.holds)
  obtain rfl := relocate_of_lookup h.coherent hv.found hi'
  have hle : r.size ≤ relocate r₁ r₂ i := by
    refine Nat.le_of_not_lt fun hlt => ?_
    have hold := lookup_of_lt h.sound h.second hi' hlt
    rw [hv.new] at hold
    exact nomatch hold
  obtain ⟨node', hnode', huri'⟩ := h.second.coherent h.sound.coherent _ _ hi'
  obtain ⟨there, w, hw⟩ := h.second.added hnode' hle
  obtain rfl : there = here := Target.key_injective (hw.uri.symm.trans huri')
  cases h.same hw hv.holds
  exact ⟨hle, node', hnode', hw⟩

theorem Covers.node (h : Covers S T r r₁ r₂) {i : Nat} {node : Node} (hi : r₁.get? i = some node) :
    r₂.get? (relocate r₁ r₂ i) = some (node.renumber (relocate r₁ r₂)) := by
  by_cases hlt : i < r.size
  · -- one of the first nodes, and all that it refers to is among them
    rw [h.first.keeps.get? hlt] at hi
    have hself : node.renumber (relocate r₁ r₂) = node := by
      refine Node.renumber_eq_self (fun j hj => ?_) fun j hj => ?_
      · exact h.relocate_of_lt (Nat.lt_trans (h.sound.lt_of_children hi hj) hlt)
      · exact h.relocate_of_lt (h.sound.lt_of_links hi hj)
    rw [h.relocate_of_lt hlt, h.second.keeps.get? hlt, hself]
    exact hi
  · obtain ⟨here, v, hv⟩ := h.first.added hi (Nat.not_lt.mp hlt)
    obtain ⟨_, node', hnode', hv'⟩ := h.exists_added hv
    have heq : node' = node.renumber (relocate r₁ r₂) :=
      hv.represents.eq_renumber hv'.represents hv.uri hv'.uri hv.unlinked hv'.unlinked
        fun place j j' hj hj' => (relocate_of_lookup h.coherent hj hj').symm
    rw [hnode', heq]

theorem Covers.injective (h : Covers S T r r₁ r₂) (hsound : r₁.Sound) {i j : Nat}
    (hi : i < r₁.size) (hj : j < r₁.size) (heq : relocate r₁ r₂ i = relocate r₁ r₂ j) : i = j := by
  obtain ⟨node, hnode⟩ := get?_of_lt hi
  obtain ⟨other, hother⟩ := get?_of_lt hj
  have hsame := h.node hnode
  rw [heq, h.node hother] at hsame
  -- renumbering leaves the key alone, and each of the two nodes is found under it
  obtain ⟨huri, _⟩ := Node.mk.inj (Option.some.inj hsame)
  have hfound := hsound.found hother
  rw [huri, hsound.found hnode] at hfound
  exact Option.some.inj hfound

/-- **The first registry is embedded in the second one.** -/
theorem Covers.embeds (h : Covers S T r r₁ r₂) (hsound : r₁.Sound) :
    Embeds (relocate r₁ r₂) r₁ r₂ := ⟨h.node, h.injective hsound⟩

end Registry

/-! ## After a failed compilation -/

/-- The place had no node, and now it has one. -/
def LeftBehind (r r' : Registry) (here : Target) : Prop :=
  r.lookup here.key = none ∧ (r'.lookup here.key).isSome = true

variable {failed : Value} {r r' r₁ r₂ : Registry}

/-- What the two compilations after the failed one and without it have in common. -/
theorem covers_of_agree (hr : r.Sound) (hd : document.Distinct)
    (hleft : Additions failed.HasSchema r r') (hfirst : Additions document.HasSchema r r₁)
    (hsecond : Additions document.HasSchema r' r₂)
    (hpresent : ∀ here v, document.HasSchema here v → Present r₂ here v)
    (hagree : ∀ here v w, LeftBehind r r' here → failed.HasSchema here v →
      document.HasSchema here w → v = w) :
    Registry.Covers document.HasSchema
      (fun here v => document.HasSchema here v ∨
        LeftBehind r r' here ∧ failed.HasSchema here v) r r₁ r₂ where
  sound := hr
  first := hfirst
  second := by
    refine (hleft.imp fun hv => .inr ⟨⟨hv.new, ?_⟩, hv.holds⟩).trans
      (hsecond.imp fun hv => .inl hv.holds)
    rw [hv.found]
    rfl
  present hv := by
    obtain ⟨hfound, _, _⟩ := hpresent _ _ hv
    exact hfound
  same hv hw := by
    rcases hv.holds with hv | ⟨hleft, hv⟩
    · exact hv.unique hw hd
    · exact hagree _ _ _ hleft hv hw

/-- A node that was left behind, and is now the counterpart of another one, was compiled from a
schema at a place that the document has, too. -/
theorem exists_place_of_both {T : Target → Value → Prop}
    (hcovers : Registry.Covers document.HasSchema T r r₁ r₂)
    (hleft : Additions failed.HasSchema r r') (hkeeps : r'.Extends r₂) {i : Nat} {node : Node}
    (hi : i < r₁.size) (hle : r.size ≤ Registry.relocate r₁ r₂ i)
    (hlt : Registry.relocate r₁ r₂ i < r'.size)
    (hnode : r₂.get? (Registry.relocate r₁ r₂ i) = some node) :
    ∃ here v w, LeftBehind r r' here ∧ failed.HasSchema here v ∧ document.HasSchema here w ∧
      node.uri = here.key := by
  have hnew : r.size ≤ i := by
    refine Nat.le_of_not_lt fun hold => ?_
    rw [hcovers.relocate_of_lt hold] at hle
    omega
  obtain ⟨node₁, hnode₁⟩ := Registry.get?_of_lt hi
  obtain ⟨here, w, hw⟩ := hcovers.first.added hnode₁ hnew
  obtain ⟨_, node₂, hnode₂, hw₂⟩ := hcovers.exists_added hw
  rw [hnode] at hnode₂
  cases hnode₂
  rw [hkeeps.get? hlt] at hnode
  obtain ⟨there, v, hv⟩ := hleft.added hnode hle
  obtain rfl : there = here := Target.key_injective (hv.uri.symm.trans hw₂.uri)
  refine ⟨there, v, w, ⟨hv.new, ?_⟩, hv.holds, hw.holds, hv.uri⟩
  rw [hv.found]
  rfl

/-- **What a failed compilation leaves behind does no harm where it agrees** with the document that
is compiled next. If every node that was left for a place of this document was compiled from the
schema that stands there, then what is reached from the root is the same, up to renumbering, as if
the failed compilation had not been tried; and a node that was left is reached only at a place where
the two documents have the same schema. -/
theorem leftovers_harmless (operations : List Registry.Operation) {e : SchemaError} {root : Root}
    (hd : document.Distinct)
    (hfail : (compileRoot failed).run (Registry.after operations) = (.error e, r'))
    (hok : (compileRoot document).run (Registry.after operations) = (.ok root, r₁))
    (hagree : ∀ here v w, LeftBehind (Registry.after operations) r' here →
      failed.HasSchema here v → document.HasSchema here w → v = w) :
    ∃ root' r₂, (compileRoot document).run r' = (.ok root', r₂) ∧ root'.base = root.base ∧
      r₁.SameGraph root.index r₂ root'.index ∧
      ∀ j node, r₂.Reaches root'.index j → (Registry.after operations).size ≤ j → j < r'.size →
        r₂.get? j = some node →
          ∃ here v, failed.HasSchema here v ∧ document.HasSchema here v ∧ node.uri = here.key := by
  have hr : (Registry.after operations).Sound := Registry.sound_after operations
  generalize Registry.after operations = r at *
  obtain ⟨root', r₂, hagain, hbase⟩ := exists_compileRoot_from hok r'
  have hleft := additions_compileRoot failed hr.coherent
  have hfirst := additions_compileRoot document hr.coherent
  rw [hfail] at hleft
  rw [hok] at hfirst
  have hsecond := additions_compileRoot document (hleft.coherent hr.coherent)
  rw [hagain] at hsecond
  obtain ⟨hroot, _⟩ := present_of_compileRoot hok
  obtain ⟨hroot', hpresent⟩ := present_of_compileRoot hagain
  have hcovers := covers_of_agree hr hd hleft hfirst hsecond hpresent hagree
  have hsound := sound_of_compileRoot hr hok
  have hembeds := hcovers.embeds hsound
  have hmoved : Registry.relocate r₁ r₂ root.index = root'.index := by
    rw [hbase] at hroot'
    exact Registry.relocate_of_lookup hcovers.coherent hroot hroot'
  have hsame := hembeds.sameGraph hsound (hsound.coherent.lt_size hroot)
  rw [hmoved] at hsame
  refine ⟨root', r₂, hagain, hbase, hsame, fun j node hj hle hlt hnode => ?_⟩
  rw [← hmoved] at hj
  obtain ⟨i, _, hi, rfl⟩ :=
    hembeds.exists_reaches hsound (hsound.coherent.lt_size hroot) hj
  obtain ⟨here, v, w, hbehind, hv, hw, huri⟩ :=
    exists_place_of_both hcovers hleft hsecond.keeps hi hle hlt hnode
  cases hagree here v w hbehind hv hw
  exact ⟨here, v, hv, hw, huri⟩

/-- A document with a mistake behind two schemas. -/
def mistaken : Value :=
  .object [("not", .object [("type", .string "string")]),
    ("items", .object [("type", .string "number")]), ("maxItems", .string "x")]

/-- A document without the mistake. Of the two schemas it has the first one. -/
def kept : Value :=
  .object [("not", .object [("type", .string "string")]), ("contains", .bool true)]

theorem leftovers_harmless_kept : ∃ e r' root r₁ root' r₂,
    (compileRoot mistaken).run .empty = (.error e, r') ∧
      r'.nodes.toList.map Node.uri = ["#/not", "#/items"] ∧
      (compileRoot kept).run .empty = (.ok root, r₁) ∧
      (compileRoot kept).run r' = (.ok root', r₂) ∧ r₁.SameGraph root.index r₂ root'.index := by
  have hd : kept.Distinct := by
    simp [kept, Value.Distinct, Value.DistinctMembers, Members.Distinct]
  have hd' : mistaken.Distinct := by
    simp [mistaken, Value.Distinct, Value.DistinctMembers, Members.Distinct]
  have hfails : ((compileRoot mistaken).run .empty).1.isOk = false := by decide +kernel
  have huris : ((compileRoot mistaken).run .empty).2.nodes.toList.map Node.uri =
      ["#/not", "#/items"] := by decide +kernel
  have hcompiles : ((compileRoot kept).run .empty).1.isOk = true := by decide +kernel
  have hcoherent : ((compileRoot mistaken).run .empty).2.Coherent :=
    (additions_compileRoot mistaken Registry.coherent_empty).coherent Registry.coherent_empty
  generalize hfail : (compileRoot mistaken).run .empty = p at hfails huris hcoherent
  generalize hok : (compileRoot kept).run .empty = q at hcompiles
  obtain ⟨answer, r'⟩ := p
  obtain ⟨answer', r₁⟩ := q
  obtain ⟨e, rfl⟩ := exists_error_of_isOk hfails
  obtain ⟨root, rfl⟩ := exists_of_isOk hcompiles
  have hagree : ∀ here v w, LeftBehind (Registry.after []) r' here →
      mistaken.HasSchema here v → kept.HasSchema here w → v = w := by
    rintro here v w ⟨_, hleft⟩ hv hw
    obtain ⟨i, hi⟩ := Option.isSome_iff_exists.mp hleft
    obtain ⟨node, hnode, huri⟩ := hcoherent _ _ hi
    have hmem : here.key ∈ r'.nodes.toList.map Node.uri := by
      rw [← huri]
      exact List.mem_map_of_mem (Array.mem_toList_iff.mpr (Array.mem_of_getElem? hnode))
    rw [huris, List.mem_pair] at hmem
    obtain ⟨hwalk, _⟩ := hv.walk hd'
    obtain ⟨hwalk', _⟩ := hw.walk hd
    rcases hmem with hkey | hkey
    · -- both documents have this schema
      obtain rfl : here = { base := .anonymous, pointer := ⟨["not"]⟩ } := Target.key_injective hkey
      exact Option.some.inj (hwalk.symm.trans hwalk')
    · -- and only the first one has this one
      obtain rfl : here = { base := .anonymous, pointer := ⟨["items"]⟩ } :=
        Target.key_injective hkey
      have hmissing : Pointer.walk ["items"] kept = none := rfl
      rw [hmissing] at hwalk'
      cases hwalk'
  obtain ⟨root', r₂, hagain, _, hsame, _⟩ := leftovers_harmless [] hd hfail hok hagree
  exact ⟨e, r', root, r₁, root', r₂, rfl, huris, rfl, hagain, hsame⟩

/-- The types that a schema allows, if it says so. -/
def Node.types : Node → Option (List TypeName)
  | { body := .bool _, .. } => none
  | { body := .keywords k, .. } => k.types

theorem Node.types_renumber (σ : Nat → Nat) (node : Node) :
    (node.renumber σ).types = node.types := by
  obtain ⟨_, _ | _⟩ := node <;> rfl

/-- The types and the sub-schemas of all nodes. -/
def Registry.outline (r : Registry) : List (Option (List TypeName) × List Nat) :=
  r.nodes.toList.map fun node => (node.types, node.body.children)

/-- A node has the types and the sub-schemas that the outline gives at its index. -/
theorem Registry.outline_get? (r : Registry) (i : Nat) :
    r.outline[i]? = (r.get? i).map fun node => (node.types, node.body.children) := by
  unfold outline get?
  rw [List.getElem?_map, Array.getElem?_toList]

theorem Registry.hasChild_of_outline {i j : Nat} {types : Option (List TypeName)}
    {children : List Nat} (h : r.outline[i]? = some (types, children)) (hj : j ∈ children) :
    r.HasChild i j := by
  rw [outline_get?] at h
  obtain ⟨node, hnode, heq⟩ := Option.map_eq_some_iff.mp h
  obtain ⟨_, rfl⟩ := Prod.mk.inj heq
  exact ⟨node, hnode, hj⟩

/-- In the same graph there is a node with the same types. -/
theorem Registry.SameGraph.exists_types {root root' i : Nat} {types : Option (List TypeName)}
    {children : List Nat} (h : r.SameGraph root r' root') (hi : r.Reaches root i)
    (hnode : r.outline[i]? = some (types, children)) :
    ∃ children', (types, children') ∈ r'.outline := by
  obtain ⟨σ, _, _, hnodes⟩ := h
  obtain ⟨node, hget, hget'⟩ := hnodes i hi
  rw [outline_get?, hget] at hnode
  obtain ⟨rfl, _⟩ := Prod.mk.inj (Option.some.inj hnode)
  have hcounterpart := r'.outline_get? (σ i)
  rw [hget'] at hcounterpart
  have hmem := List.mem_of_getElem? hcounterpart
  dsimp only at hmem
  rw [Node.types_renumber] at hmem
  exact ⟨_, hmem⟩

/-- A document with a mistake behind a schema. -/
def mistyped : Value :=
  .object [("not", .object [("type", .string "string")]), ("maxLength", .string "x")]

/-- A document with another schema at this place, and without a mistake. -/
def retyped : Value := .object [("not", .object [("type", .string "number")])]

/-- The document that is compiled after the failure gets the schema that was left behind, and not
its own one. -/
theorem leftover_taken : ∃ e r' root r₁ root' r₂,
    (compileRoot mistyped).run .empty = (.error e, r') ∧
      (compileRoot retyped).run .empty = (.ok root, r₁) ∧
      (compileRoot retyped).run r' = (.ok root', r₂) ∧
      ¬ r₁.SameGraph root.index r₂ root'.index ∧
      ∃ node, r'.get? 0 = some node ∧ r₂.get? 0 = some node ∧ r₂.Reaches root'.index 0 := by
  have hfails : ((compileRoot mistyped).run .empty).1.isOk = false := by decide +kernel
  have hleft : ((compileRoot mistyped).run .empty).2.outline = [(some [.string], [])] := by
    decide +kernel
  have hroot : ((compileRoot retyped).run .empty).1.toOption.map Root.index = some 1 := by
    decide +kernel
  have hfirst : ((compileRoot retyped).run .empty).2.outline =
      [(some [.number], []), (none, [0])] := by decide +kernel
  have hroot' : ((compileRoot retyped).run
      ((compileRoot mistyped).run .empty).2).1.toOption.map Root.index = some 1 := by
    decide +kernel
  have hsecond : ((compileRoot retyped).run ((compileRoot mistyped).run .empty).2).2.outline =
      [(some [.string], []), (none, [0])] := by decide +kernel
  have hcoherent : ((compileRoot mistyped).run .empty).2.Coherent :=
    (additions_compileRoot mistyped Registry.coherent_empty).coherent Registry.coherent_empty
  generalize (compileRoot mistyped).run .empty = p at *
  generalize (compileRoot retyped).run .empty = p₁ at *
  obtain ⟨failure, r'⟩ := p
  obtain ⟨e, rfl⟩ := exists_error_of_isOk hfails
  have hkeeps := (additions_compileRoot retyped hcoherent).keeps
  dsimp only at hroot' hsecond hleft
  generalize hagain : (compileRoot retyped).run r' = p₂ at hroot' hsecond hkeeps
  obtain ⟨answer, r₁⟩ := p₁
  obtain ⟨answer', r₂⟩ := p₂
  obtain ⟨root, rfl, hindex⟩ := exists_of_toOption_map hroot
  obtain ⟨root', rfl, hindex'⟩ := exists_of_toOption_map hroot'
  dsimp only at hfirst hsecond hkeeps
  refine ⟨e, r', root, r₁, root', r₂, rfl, rfl, hagain, fun hsame => ?_, ?_⟩
  · have hparent : r₁.outline[root.index]? = some (none, [0]) := by
      rw [hfirst, hindex]
      rfl
    have hchild := Registry.hasChild_of_outline hparent (List.mem_singleton_self 0)
    obtain ⟨children, hmem⟩ := hsame.exists_types (.single hchild) (by rw [hfirst]; rfl)
    -- no node of the second registry allows numbers
    rw [hsecond, List.mem_pair] at hmem
    rcases hmem with heq | heq <;> exact nomatch (Prod.mk.inj heq).1
  · have hnode := r'.outline_get? 0
    rw [hleft] at hnode
    obtain ⟨node, hnode, _⟩ := Option.map_eq_some_iff.mp hnode.symm
    have hstays : r₂.get? 0 = some node := by
      rw [hkeeps.get? (Registry.lt_size_of_get? hnode)]
      exact hnode
    have hparent : r₂.outline[root'.index]? = some (none, [0]) := by
      rw [hsecond, hindex']
      rfl
    have hchild := Registry.hasChild_of_outline hparent (List.mem_singleton_self 0)
    exact ⟨node, hnode, hstays, .single hchild⟩

end JsonSchema
