import JsonSchema.Proofs.Compilation.Operations

/-!
# When references are linked

Links can be forgotten: `Registry.unlink` takes them all away. Neither compiling nor adding a node
looks at links, so what they do to a registry they also do to the unlinked one. And every link that
has been made is the one that would be made now, since a key keeps its index once it has one. So
linking a registry is linking the unlinked one, whatever was linked before, and it does not matter
when and how often references have been linked.
-/

namespace JsonSchema

/-! ## Taking links away -/

/-- The reference as it was before it was linked. -/
def Reference.unlink (ref : Reference) : Reference := { ref with resolved := none }

/-- The node without its link. -/
def Node.unlink (node : Node) : Node :=
  match node.body with
  | .bool _ => node
  | .keywords k => { node with body := .keywords { k with ref := k.ref.map Reference.unlink } }

theorem Node.uri_unlink (node : Node) : node.unlink.uri = node.uri := by
  unfold Node.unlink
  split <;> rfl

theorem Node.ref?_unlink (node : Node) : node.unlink.ref? = node.ref?.map Reference.unlink := by
  obtain ⟨uri, body⟩ := node
  cases body <;> rfl

namespace Registry

variable {r r' : Registry}

theorem ref?_linkNode (r : Registry) (node : Node) :
    (r.linkNode node).ref? = node.ref?.map r.linkRef := by
  obtain ⟨uri, body⟩ := node
  cases body <;> rfl

/-- Linking a reference leaves the target as it is. -/
theorem unlink_linkRef (r : Registry) (ref : Reference) : (r.linkRef ref).unlink = ref.unlink := by
  unfold linkRef
  split <;> rfl

theorem unlink_linkNode (r : Registry) (node : Node) : (r.linkNode node).unlink = node.unlink := by
  obtain ⟨uri, body⟩ := node
  cases body with
  | bool b => rfl
  | keywords k =>
      have href : (k.ref.map r.linkRef).map Reference.unlink = k.ref.map Reference.unlink := by
        rw [Option.map_map]
        exact congrArg (fun f => k.ref.map f) (funext (unlink_linkRef r))
      show (⟨uri, .keywords { k with ref := (k.ref.map r.linkRef).map Reference.unlink }⟩ :
        Node) = _
      rw [href]
      rfl

/-- The registry without any links. -/
def unlink (r : Registry) : Registry := { r with nodes := r.nodes.map Node.unlink }

theorem size_unlink (r : Registry) : r.unlink.size = r.size := Array.size_map

theorem lookup_unlink (r : Registry) (key : String) : r.unlink.lookup key = r.lookup key := rfl

theorem unlink_link (r : Registry) : r.link.2.unlink = r.unlink := by
  refine Registry.ext ?_ rfl
  show (r.nodes.map r.linkNode).map Node.unlink = r.nodes.map Node.unlink
  rw [Array.map_map]
  exact congrArg (fun f => r.nodes.map f) (funext (unlink_linkNode r))

theorem unlink_push (r : Registry) (node : Node) :
    (r.push node).unlink = r.unlink.push node.unlink := by
  refine Registry.ext Array.map_push ?_
  show r.byUri.set node.uri r.size = r.byUri.set node.unlink.uri r.unlink.size
  rw [Node.uri_unlink, size_unlink]

/-- A node is added in the same way whatever is linked. -/
theorem add_of_unlink_eq (h : r.unlink = r'.unlink) (node : Node) :
    (r.add node).1 = (r'.add node).1 ∧ (r.add node).2.unlink = (r'.add node).2.unlink := by
  have hlookup : r.lookup node.uri = r'.lookup node.uri := by
    rw [← lookup_unlink, h, lookup_unlink]
  unfold add
  rw [hlookup]
  cases r'.lookup node.uri with
  | some i => exact ⟨rfl, h⟩
  | none =>
      have hsize : r.size = r'.size := by rw [← size_unlink, h, size_unlink]
      refine ⟨hsize, ?_⟩
      show (r.push node).unlink = (r'.push node).unlink
      rw [unlink_push, unlink_push, h]

/-! ## Links that are up to date -/

/-- Every link leads where it would lead if the reference were linked now. -/
structure UpToDate (r : Registry) : Prop where
  coherent : r.Coherent
  linked : ∀ {i node ref j}, r.get? i = some node → node.ref? = some ref →
    ref.resolved = some j → r.lookup ref.target.key = some j

/-- A reference that leads to no node is not linked. -/
theorem UpToDate.resolved_eq_none (h : r.UpToDate) {i : Nat} {node : Node} {ref : Reference}
    (hi : r.get? i = some node) (href : node.ref? = some ref)
    (hnone : r.lookup ref.target.key = none) : ref.resolved = none := by
  refine Option.eq_none_iff_forall_ne_some.mpr fun j hj => ?_
  rw [h.linked hi href hj] at hnone
  exact nomatch hnone

/-- Linking a reference again links it as if it had never been linked. -/
theorem UpToDate.linkRef_eq (h : r.UpToDate) {i : Nat} {node : Node} {ref : Reference}
    (hi : r.get? i = some node) (href : node.ref? = some ref) :
    r.linkRef ref = { ref with resolved := r.lookup ref.target.key } := by
  unfold linkRef
  split
  · rfl
  · rename_i hlinked
    obtain ⟨j, hj⟩ := Option.ne_none_iff_exists'.mp fun hnone =>
      hlinked (Option.isNone_iff_eq_none.mpr hnone)
    rw [h.linked hi href hj, ← hj]

/-- Without links a node keeps its key. -/
theorem Coherent.unlink (h : r.Coherent) : r.unlink.Coherent := by
  intro key i hi
  obtain ⟨node, hnode, huri⟩ := h key i hi
  refine ⟨node.unlink, ?_, (Node.uri_unlink node).trans huri⟩
  exact Array.getElem?_map.trans (congrArg (Option.map Node.unlink) hnode)

theorem upToDate_unlink (hr : r.Coherent) : r.unlink.UpToDate := by
  refine ⟨hr.unlink, fun {i node ref j} hi href hj => ?_⟩
  obtain ⟨old, _, rfl⟩ := Option.map_eq_some_iff.mp (Array.getElem?_map.symm.trans hi)
  rw [Node.ref?_unlink] at href
  obtain ⟨own, _, rfl⟩ := Option.map_eq_some_iff.mp href
  exact nomatch hj

theorem UpToDate.link (h : r.UpToDate) : r.link.2.UpToDate := by
  refine ⟨h.coherent.link, fun {i node ref j} hi href hj => ?_⟩
  rw [get?_link] at hi
  obtain ⟨old, hold, rfl⟩ := Option.map_eq_some_iff.mp hi
  rw [ref?_linkNode] at href
  obtain ⟨own, hown, rfl⟩ := Option.map_eq_some_iff.mp href
  rw [h.linkRef_eq hold hown] at hj ⊢
  rw [lookup_link]
  exact hj

/-- A node that is not linked may come last. -/
theorem UpToDate.add (h : r.UpToDate) {node : Node}
    (hopen : ∀ ref, node.ref? = some ref → ref.resolved = none) : (r.add node).2.UpToDate := by
  unfold Registry.add
  cases hl : r.lookup node.uri with
  | some i => exact h
  | none =>
      refine ⟨h.coherent.push node, fun {i other ref j} hi href hj => ?_⟩
      rw [get?_push] at hi
      by_cases hsize : i = r.size
      · rw [if_pos hsize] at hi
        cases hi
        rw [hopen ref href] at hj
        exact nomatch hj
      · rw [if_neg hsize] at hi
        exact grows_push hl _ _ (h.linked hi href hj)

theorem UpToDate.adds (h : r.UpToDate) (hadds : Relation.ReflTransGen Compile.Adds r r') :
    r'.UpToDate := by
  induction hadds with
  | refl => exact h
  | tail _ hstep ih =>
      cases hstep with
      | node uri hbody => exact ih.add (takes_of_readBelow hbody).unlinked

/-! ## What linking gives -/

/-- The target of a node is missing if it has a reference and there is no node where that leads. -/
theorem UpToDate.missing?_eq (h : r.UpToDate) {i : Nat} {node : Node} (hi : r.get? i = some node) :
    r.missing? node =
      (node.ref?.map Reference.target).filter fun target => (r.lookup target.key).isNone := by
  refine Option.ext fun target => ?_
  rw [missing?_eq_some, Option.filter_eq_some_iff, Option.map_eq_some_iff,
    Option.isNone_iff_eq_none]
  constructor
  · rintro ⟨ref, href, _, rfl, hnone⟩
    exact ⟨⟨ref, href, rfl⟩, hnone⟩
  · rintro ⟨⟨ref, href, rfl⟩, hnone⟩
    exact ⟨ref, href, h.resolved_eq_none hi href hnone, rfl, hnone⟩

/-- **Linking gives the targets that are missing**, one for each node that refers to one, in the
order of the nodes. -/
theorem UpToDate.link_fst (h : r.UpToDate) : r.link.1 = r.nodes.toList.filterMap fun node =>
    (node.ref?.map Reference.target).filter fun target => (r.lookup target.key).isNone := by
  refine List.filterMap_congr fun node hnode => ?_
  obtain ⟨i, hi⟩ := List.mem_iff_getElem?.mp hnode
  exact h.missing?_eq (Array.getElem?_toList.symm.trans hi)

/-- **Linking links all references that lead to nodes**, and no other. -/
theorem UpToDate.resolved_link (h : r.UpToDate) {i : Nat} {node : Node} {ref : Reference}
    (hi : r.link.2.get? i = some node) (href : node.ref? = some ref) :
    ref.resolved = r.link.2.lookup ref.target.key := by
  rw [get?_link] at hi
  obtain ⟨old, hold, rfl⟩ := Option.map_eq_some_iff.mp hi
  rw [ref?_linkNode] at href
  obtain ⟨own, hown, rfl⟩ := Option.map_eq_some_iff.mp href
  rw [h.linkRef_eq hold hown, lookup_link]

/-- A node is linked as if it had never been linked. -/
theorem UpToDate.linkNode_unlink (h : r.UpToDate) {i : Nat} {node : Node}
    (hi : r.get? i = some node) : r.unlink.linkNode node.unlink = r.linkNode node := by
  obtain ⟨uri, body⟩ := node
  cases body with
  | bool b => rfl
  | keywords k =>
      have href : (k.ref.map Reference.unlink).map r.unlink.linkRef = k.ref.map r.linkRef := by
        rw [Option.map_map]
        refine Option.map_congr fun ref href => ?_
        show { ref with resolved := r.unlink.lookup ref.target.key } = _
        rw [h.linkRef_eq hi href, lookup_unlink]
      show (⟨uri, .keywords { k with ref := (k.ref.map Reference.unlink).map r.unlink.linkRef }⟩ :
        Node) = _
      rw [href]
      rfl

/-- **Linking forgets what was linked before.** -/
theorem UpToDate.link_unlink (h : r.UpToDate) : r.unlink.link = r.link := by
  refine Prod.ext ?_ (Registry.ext (Array.ext_getElem? fun i => ?_) rfl)
  · rw [(upToDate_unlink h.coherent).link_fst, h.link_fst]
    show (r.nodes.map Node.unlink).toList.filterMap _ = _
    rw [Array.toList_map, List.filterMap_map]
    refine List.filterMap_congr fun node _ => ?_
    show ((node.unlink.ref?.map Reference.target).filter _) = _
    rw [Node.ref?_unlink, Option.map_map]
    exact congrArg (Option.filter · (node.ref?.map Reference.target))
      (funext fun target => by rw [lookup_unlink])
  · show r.unlink.link.2.get? i = r.link.2.get? i
    rw [get?_link, get?_link]
    show (r.nodes.map Node.unlink)[i]?.map _ = _
    rw [Array.getElem?_map, Option.map_map]
    exact Option.map_congr fun node hi => h.linkNode_unlink hi

/-- Registries that are the same but for links are the same once they are linked. -/
theorem UpToDate.link_eq (h : r.UpToDate) (h' : r'.UpToDate) (heq : r.unlink = r'.unlink) :
    r.link = r'.link := by
  rw [← h.link_unlink, heq, h'.link_unlink]

end Registry

/-! ## Compiling looks at no links -/

namespace Compile

variable {α β : Type}

/-- Registries that are the same but for links lead to the same answer, and to registries that are
the same but for links. -/
def Blind (m : Compile α) : Prop :=
  ∀ r r' : Registry, r.unlink = r'.unlink →
    (m.run r).1 = (m.run r').1 ∧ (m.run r).2.unlink = (m.run r').2.unlink

theorem blind_pure (a : α) : Blind (pure a : Compile α) := fun _ _ h => ⟨rfl, h⟩

theorem blind_throw (e : SchemaError) : Blind (throw e : Compile α) := fun _ _ h => ⟨rfl, h⟩

theorem blind_liftExcept (a : Except SchemaError α) : Blind (liftExcept a) := by
  cases a with
  | ok a => exact blind_pure a
  | error e => exact blind_throw e

theorem blind_register (node : Node) : Blind (register node) := by
  intro r r' h
  obtain ⟨hindex, hregistry⟩ := Registry.add_of_unlink_eq h node
  exact ⟨congrArg Except.ok hindex, hregistry⟩

theorem Blind.bind {m : Compile α} {f : α → Compile β} (hm : Blind m) (hf : ∀ a, Blind (f a)) :
    Blind (m >>= f) := by
  intro r r' h
  obtain ⟨hanswer, hregistry⟩ := hm r r' h
  rw [run_bind, run_bind]
  generalize m.run r = p at hanswer hregistry ⊢
  generalize m.run r' = p' at hanswer hregistry ⊢
  obtain ⟨answer, s⟩ := p
  obtain ⟨answer', s'⟩ := p'
  cases hanswer
  cases answer with
  | ok a => exact hf a s s' hregistry
  | error e => exact ⟨rfl, hregistry⟩

theorem Blind.map {m : Compile α} (hm : Blind m) (f : α → β) : Blind (f <$> m) :=
  hm.bind fun a => blind_pure (f a)

theorem blind_reading {compile : Target → Value → Compile Nat}
    (hc : ∀ here v, Blind (compile here v)) (m : Reading α) : Blind (m.run compile) := by
  induction m with
  | done a => exact blind_pure a
  | failed e => exact blind_throw e
  | needs place v next ih => exact (hc place v).bind ih

theorem blind_schema {compile : Target → Value → Compile Nat}
    (hc : ∀ here v, Blind (compile here v)) (here : Target) (v : Value) :
    Blind (schema compile here v) := by
  cases v with
  | bool b => exact blind_register _
  | object members => exact (blind_reading hc _).bind fun k => blind_register _
  | _ => exact blind_throw _

theorem blind_within (height : Nat) (here : Target) (v : Value) : Blind (within height here v) := by
  induction height generalizing here v with
  | zero => exact blind_schema (fun _ _ => blind_throw _) here v
  | succ height ih => exact blind_schema ih here v

theorem blind_placed (here : Target) (v : Value) : Blind (placed here v) :=
  (blind_liftExcept _).bind fun _ => (blind_within _ _ _).bind fun _ => blind_pure _

end Compile

/-! ## Any sequence of steps -/

namespace Registry

/-- A step on the way to a registry. Besides what `Operation` has, any node may be added whose
reference is not linked. -/
inductive Step where
  /-- A document is compiled. -/
  | compileRoot (document : Value)
  /-- The schema at a place is compiled. -/
  | compileAt (here : Target) (v : Value)
  /-- A node is added. -/
  | add (node : Node) (unlinked : ∀ ref, node.ref? = some ref → ref.resolved = none)
  /-- References are linked. -/
  | link

/-- Whether the step is linking. -/
def Step.isLink : Step → Bool
  | link => true
  | _ => false

/-- What a step makes of a registry, whether it succeeds or not. -/
def Step.apply (r : Registry) : Step → Registry
  | compileRoot document => ((JsonSchema.compileRoot document).run r).2
  | compileAt here v => ((JsonSchema.compileAt here v).run r).2
  | add node _ => (r.add node).2
  | link => r.link.2

/-- The registry that steps lead to. -/
def reached (steps : List Step) : Registry := steps.foldl Step.apply .empty

variable {r r' : Registry}

/-- Links stay up to date at every step. -/
theorem UpToDate.apply (h : r.UpToDate) (step : Step) : (step.apply r).UpToDate := by
  cases step with
  | compileRoot document =>
      have hadds := adds_placed { base := .anonymous, pointer := .root } document h.coherent
      rw [← snd_run_map _ (fun p => ({ base := p.1, index := p.2 } : Root))] at hadds
      exact h.adds hadds
  | compileAt here v =>
      have hadds := adds_placed here v h.coherent
      rw [← snd_run_map _ Prod.snd] at hadds
      exact h.adds hadds
  | add node hopen => exact h.add hopen
  | link => exact h.link

theorem upToDate_reached (steps : List Step) : (reached steps).UpToDate := by
  have hfold : ∀ (steps : List Step) (r : Registry), r.UpToDate →
      (steps.foldl Step.apply r).UpToDate := by
    intro steps
    induction steps with
    | nil => exact fun _ h => h
    | cons step rest ih => exact fun r h => ih _ (h.apply step)
  exact hfold steps .empty ⟨coherent_empty, fun hi => nomatch hi⟩

/-- A step that is not linking does not look at links, and linking changes nothing else. -/
theorem unlink_apply (h : r.unlink = r'.unlink) (step : Step) :
    (step.apply r).unlink = (step.apply r').unlink := by
  cases step with
  | compileRoot document => exact ((Compile.blind_placed _ document).map _ r r' h).2
  | compileAt here v => exact ((Compile.blind_placed here v).map _ r r' h).2
  | add node _ => exact (add_of_unlink_eq h node).2
  | link => exact (unlink_link r).trans (h.trans (unlink_link r').symm)

/-- Steps of linking may be left out, as far as anything but links is concerned. -/
theorem unlink_foldl_filter (steps : List Step) (h : r.unlink = r'.unlink) :
    (steps.foldl Step.apply r).unlink =
      ((steps.filter fun step => !step.isLink).foldl Step.apply r').unlink := by
  induction steps generalizing r r' with
  | nil => exact h
  | cons step rest ih =>
      by_cases hlink : step.isLink = true
      · rw [List.filter_cons_of_neg (by simp [hlink])]
        cases step with
        | link => exact ih ((unlink_link r).trans h)
        | _ => exact nomatch hlink
      · rw [List.filter_cons_of_pos (by simp [hlink])]
        exact ih (unlink_apply h step)

/-- **Linking is complete, links nothing twice, and may be done at any time.** Wherever steps have
led, it gives the targets that have no node, one for each node that refers to one, in the order of
the nodes. Then every reference is linked to the node that has the key of its target, if there is
one, and is not linked otherwise; and linking again changes nothing and gives the same. If two
sequences of steps differ only in where and how often they link, linking gives the same at the end
of both. -/
theorem linking_is_timeless (steps : List Step) :
    ((reached steps).link.1 = (reached steps).nodes.toList.filterMap fun node =>
      (node.ref?.map Reference.target).filter fun target =>
        ((reached steps).lookup target.key).isNone) ∧
    (∀ i node ref, (reached steps).link.2.get? i = some node → node.ref? = some ref →
      ref.resolved = (reached steps).link.2.lookup ref.target.key) ∧
    (reached steps).link.2.link = (reached steps).link ∧
    ∀ steps', (steps.filter fun step => !step.isLink) = (steps'.filter fun step => !step.isLink) →
      (reached steps).link = (reached steps').link := by
  have h := upToDate_reached steps
  refine ⟨h.link_fst, fun i node ref => h.resolved_link, h.link.link_eq h (unlink_link _),
    fun steps' hsame => ?_⟩
  · refine h.link_eq (upToDate_reached steps') ?_
    unfold reached
    rw [unlink_foldl_filter steps rfl, hsame, ← unlink_foldl_filter steps' rfl]

/-- A document that refers to another one, to itself, and to one that is never given. -/
def referring : Value :=
  .object [("$id", .string "urn:a"), ("allOf", .array
    [.object [("$ref", .string "urn:b")], .object [("$ref", .string "urn:a")],
      .object [("$ref", .string "urn:c")]])]

/-- Its references are linked before the other document is there, and again afterwards. -/
def gradually : List Step :=
  [.compileRoot referring, .link, .compileRoot (.object [("$id", .string "urn:b")]), .link, .link]

/-- Nothing is linked before both documents are there. -/
def atOnce : List Step :=
  [.compileRoot referring, .compileRoot (.object [("$id", .string "urn:b")])]

theorem linking_is_timeless_gradually :
    (gradually.filter fun step => !step.isLink) = (atOnce.filter fun step => !step.isLink) ∧
      (reached gradually).link = (reached atOnce).link ∧
      (reached atOnce).link.1.map Target.key = ["urn:c"] ∧
      ((reached atOnce).link.2.nodes.toList.map fun node => node.ref?.map Reference.resolved) =
        [some (some 4), some (some 3), some none, none, none] := by
  obtain ⟨_, _, _, hsame⟩ := linking_is_timeless gradually
  exact ⟨rfl, hsame atOnce rfl, by decide +kernel, by decide +kernel⟩

end Registry

end JsonSchema
