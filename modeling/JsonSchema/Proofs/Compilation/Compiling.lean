import JsonSchema.Proofs.Compilation.Registry
import JsonSchema.Proofs.Direct.Documents
import Mathlib.Logic.Relation

/-!
# What compiling adds to a registry

Compiling the schema at a place adds nodes for it and for the schemas inside it, and gives the index
of the node with the key of the place. Each node that is added represents a schema at a place which
had no node. This holds whether the compilation succeeds or not: if it fails, the nodes that were
added before stay, and they are as good as any others. So a faithful registry stays faithful.
-/

namespace JsonSchema

namespace Compile

variable {α β : Type} {stands : Target → Value → Prop}

/-- One computation after another: the second one is run where the first one ends. -/
theorem run_bind (m : Compile α) (f : α → Compile β) (r : Registry) :
    (m >>= f).run r = match m.run r with
      | (.ok a, r') => (f a).run r'
      | (.error e, r') => (.error e, r') := by
  show (ExceptT.bindCont f (m r).1) (m r).2 = match m r with
    | (.ok a, r') => f a r'
    | (.error e, r') => (.error e, r')
  rcases m r with ⟨_ | _, r'⟩ <;> rfl

theorem run_register (node : Node) (r : Registry) :
    (register node).run r = (.ok (r.add node).1, (r.add node).2) := rfl

/-! ## Reading values

References lead where the text of the `$ref` says, and they are not linked when they are read.
-/

theorem resolved_of_asReference {base : BaseUri} {v : Value} {ref : Reference}
    (h : asReference base v = .ok ref) : ref.resolved = none := by
  unfold asReference at h
  cases v with
  | string text =>
      dsimp only [asString, bind, Except.bind] at h
      split at h
      · cases h; rfl
      · exact nomatch h
  | _ => exact nomatch h

theorem asReference_eq_ok {base : BaseUri} {v : Value} {ref : Reference}
    (h : asReference base v = .ok ref) :
    ∃ text, v = .string text ∧ base.resolve text = .ok ref.target := by
  cases v with
  | string text =>
      unfold asReference at h
      dsimp only [asString, bind, Except.bind] at h
      refine ⟨text, rfl, ?_⟩
      split at h
      · rename_i target htarget
        cases h
        exact htarget
      · exact nomatch h
  | _ => exact nomatch h

/-- A list of names is read from an array of strings. -/
theorem asStrings_eq_ok {v : Value} {names : List String} (h : asStrings v = .ok names) :
    v = .array (names.map .string) := by
  cases v with
  | array items =>
      induction items generalizing names with
      | nil => cases h; rfl
      | cons item rest ih =>
          dsimp only [asStrings] at h
          rw [List.mapM_cons] at h
          obtain ⟨s, hs, h⟩ := bind_eq_ok h
          obtain ⟨names', hrest, h⟩ := bind_eq_ok h
          cases h
          have hstrings : rest = names'.map .string := Value.array.inj (ih hrest)
          cases item with
          | string t => cases hs; rw [List.map_cons, ← hstrings]
          | _ => exact nomatch hs
  | _ => exact nomatch h

/-- Where the `$ref` of a schema leads is where the reference leads that is read from it. -/
theorem refersTo_iff {here : Target} {members : Members Value} {o : Option Reference}
    (h : optional members "$ref" (asReference here.base) here = .ok o) (target : Target) :
    Direct.RefersTo here.base members target ↔ ∃ ref, o = some ref ∧ ref.target = target := by
  have hread := Direct.optional_eq_ok.mp h
  unfold Direct.RefersTo
  generalize members.get? "$ref" = w at hread ⊢
  cases hread with
  | none => exact ⟨fun ⟨_, hno, _⟩ => (nomatch hno), fun ⟨_, hno, _⟩ => (nomatch hno)⟩
  | @some _ ref href =>
      obtain ⟨text, rfl, hresolve⟩ := asReference_eq_ok href
      refine ⟨fun ⟨text', htext, hresolve'⟩ => ⟨ref, rfl, ?_⟩, fun ⟨_, hself, htarget⟩ => ?_⟩
      · cases htext
        rw [hresolve] at hresolve'
        exact Except.ok.inj hresolve'
      · cases hself
        exact ⟨text, rfl, htarget ▸ hresolve⟩

/-- The keywords of a schema have the reference that its `$ref` is read as. -/
theorem optional_ref_of_yields {here : Target} {members : Members Value}
    {index : Target → Nat → Prop} {k : Keywords} (h : (keywords here members).Yields index k) :
    optional members "$ref" (asReference here.base) here = .ok k.ref := by
  unfold keywords at h
  simp only [Reading.yields_bind, Reading.yields_pure, Reading.yields_lift] at h
  obtain ⟨own, hown, _, _, _, _, _, _, _, _, _, _, _, _, _, _, rfl⟩ := h
  exact hown

theorem resolved_of_yields {here : Target} {members : Members Value} {index : Target → Nat → Prop}
    {k : Keywords} (h : (keywords here members).Yields index k) {ref : Reference}
    (href : k.ref = some ref) : ref.resolved = none := by
  have hread := Direct.optional_eq_ok.mp (optional_ref_of_yields h)
  rw [href] at hread
  generalize members.get? "$ref" = w at hread
  cases hread with
  | some hv => exact resolved_of_asReference hv

/-! ## Schemas -/

/-- What is inside a schema that stands somewhere stands below it. -/
def ClosedInside (stands : Target → Value → Prop) : Prop :=
  ∀ here members, stands here (.object members) →
    ∀ p ∈ Subschemas.under here (Subschemas.inside members), stands p.1 p.2

/-- The node with index `i` has been added for the schema `v` at `here`, where there was no node. It
represents the schema, and its reference is not linked. -/
structure AddedFor (stands : Target → Value → Prop) (r r' : Registry) (i : Nat) (node : Node)
    (here : Target) (v : Value) : Prop where
  holds : stands here v
  uri : node.uri = here.key
  new : r.lookup here.key = none
  found : r'.lookup here.key = some i
  represents : r'.Represents i here v node.body
  unlinked : ∀ ref, node.ref? = some ref → ref.resolved = none

/-- Nodes have been added behind those that were there, each for a schema of its own. -/
structure Additions (stands : Target → Value → Prop) (r r' : Registry) : Prop where
  coherent : r.Coherent → r'.Coherent
  keeps : r.Extends r'
  grows : r.Grows r'
  added : ∀ {i node}, r'.get? i = some node → r.size ≤ i →
    ∃ here v, AddedFor stands r r' i node here v

theorem Additions.refl (r : Registry) : Additions stands r r where
  coherent := id
  keeps := Registry.Extends.refl r
  grows := Registry.Grows.refl r
  added hi hle := absurd (Registry.lt_size_of_get? hi) (Nat.not_lt.mpr hle)

theorem Additions.trans {r r' r'' : Registry} (h : Additions stands r r')
    (h' : Additions stands r' r'') : Additions stands r r'' where
  coherent hr := h'.coherent (h.coherent hr)
  keeps := h.keeps.trans h'.keeps
  grows := h.grows.trans h'.grows
  added := by
    intro i node hi hle
    by_cases hlt : i < r'.size
    · -- the node was there after the first additions
      rw [h'.keeps.get? hlt] at hi
      obtain ⟨here, v, hv⟩ := h.added hi hle
      exact ⟨here, v, hv.holds, hv.uri, hv.new, h'.grows _ _ hv.found, hv.represents.grows h'.grows,
        hv.unlinked⟩
    · obtain ⟨here, v, hv⟩ := h'.added hi (Nat.not_lt.mp hlt)
      have hnew : r.lookup here.key = none := h.grows.eq_none hv.new
      exact ⟨here, v, hv.holds, hv.uri, hnew, hv.found, hv.represents, hv.unlinked⟩

/-- It does not matter by what the schemas are described for which nodes have been added. -/
theorem Additions.imp {stands' : Target → Value → Prop} {r r' : Registry}
    (h : Additions stands r r')
    (himp : ∀ {i node here v}, AddedFor stands r r' i node here v → stands' here v) :
    Additions stands' r r' where
  coherent := h.coherent
  keeps := h.keeps
  grows := h.grows
  added := by
    intro i node hi hle
    obtain ⟨here, v, hv⟩ := h.added hi hle
    exact ⟨here, v, himp hv, hv.uri, hv.new, hv.found, hv.represents, hv.unlinked⟩

/-- Registering a schema that has been read adds one node at most. -/
theorem additions_add {r : Registry} {here : Target} {v : Value} {body : Body}
    (hv : stands here v) (hrep : r.Represents r.size here v body)
    (hunlinked : ∀ ref, Node.ref? { uri := here.key, body } = some ref → ref.resolved = none) :
    Additions stands r (r.add { uri := here.key, body }).2 := by
  unfold Registry.add
  cases hl : r.lookup here.key with
  | some i => exact Additions.refl r
  | none =>
      have hgrows : r.Grows (r.push { uri := here.key, body }) := Registry.grows_push hl
      refine ⟨fun hr => hr.push _, Registry.extends_push r _, hgrows,
        fun {i node} hi hle => ⟨here, v, ?_⟩⟩
      rw [Registry.get?_push] at hi
      by_cases hsize : i = r.size
      · rw [if_pos hsize] at hi
        cases hi
        have hfound : (r.push { uri := here.key, body }).lookup here.key = some i := by
          rw [Registry.lookup_push, if_pos rfl, hsize]
        exact ⟨hv, rfl, hl, hfound, hsize ▸ hrep.grows hgrows, hunlinked⟩
      · rw [if_neg hsize] at hi
        exact absurd (Registry.lt_size_of_get? hi) (Nat.not_lt.mpr hle)

/-- Whatever schema is compiled where it stands, nodes are only added, and the answer is the index
of the place. -/
def Adding (stands : Target → Value → Prop) (compile : Target → Value → Compile Nat) : Prop :=
  ∀ here v r, stands here v → r.Coherent → Additions stands r ((compile here v).run r).2 ∧
    ∀ i, ((compile here v).run r).1 = .ok i → ((compile here v).run r).2.lookup here.key = some i

/-- Carrying out a reading compiles what it asks for, and yields what it yields with the indices
given on the way. -/
theorem additions_reading {compile : Target → Value → Compile Nat} (hc : Adding stands compile)
    {m : Reading α} {l : List (Target × Value)} (hl : m.Asks l) (hs : ∀ p ∈ l, stands p.1 p.2)
    {r : Registry} (hr : r.Coherent) :
    Additions stands r ((m.run compile).run r).2 ∧
      ∀ a, ((m.run compile).run r).1 = .ok a →
        m.Yields (fun place i => ((m.run compile).run r).2.lookup place.key = some i) a := by
  induction m generalizing l r with
  | done a =>
      refine ⟨Additions.refl r, fun b hb => ?_⟩
      cases hb
      exact .done a
  | failed e => exact ⟨Additions.refl r, fun b hb => nomatch hb⟩
  | needs place v next ih =>
      obtain ⟨rest, rfl, hrest⟩ := hl
      obtain ⟨hadds, hfound⟩ := hc place v r (hs (place, v) List.mem_cons_self) hr
      rw [Reading.run, run_bind]
      -- the induction goes on from the registry that the first schema leaves
      generalize (compile place v).run r = p at hadds hfound
      obtain ⟨answer, r'⟩ := p
      cases answer with
      | error e => exact ⟨hadds, fun b hb => nomatch hb⟩
      | ok i =>
          obtain ⟨hrestadds, hyields⟩ :=
            ih i (hrest i) (fun p hp => hs p (List.mem_cons_of_mem _ hp)) (hadds.coherent hr)
          refine ⟨hadds.trans hrestadds, fun a ha => ?_⟩
          -- the index was given before the rest was compiled, and it is kept
          exact .needs (hrestadds.grows _ _ (hfound i rfl)) (hyields a ha)

/-- The keywords that have just been read represent the schema. -/
theorem represents_keywords {r : Registry} (hr : r.Coherent) {here : Target}
    {members : Members Value} {k : Keywords}
    (h : (keywords here members).Yields (fun place i => r.lookup place.key = some i) k) :
    r.Represents r.size here (.object members) (.keywords k) := by
  have hk : (keywords here members).Yields (r.IndexBelow r.size) { k with ref := k.ref } :=
    h.mono fun _ _ hi => ⟨hr.lt_size hi, hi⟩
  refine .keywords hk ?_
  -- no reference is linked yet
  cases href : k.ref with
  | none => exact .none
  | some ref =>
      refine .some ⟨rfl, fun i hi => ?_⟩
      rw [resolved_of_yields h href] at hi
      exact nomatch hi

theorem schema_adding (hclosed : ClosedInside stands) {compile : Target → Value → Compile Nat}
    (hc : Adding stands compile) : Adding stands (schema compile) := by
  intro here v r hv hr
  have hregister : ∀ (r' : Registry) (body : Body), Additions stands r r' →
      r'.Represents r'.size here v body →
      (∀ ref, Node.ref? { uri := here.key, body } = some ref → ref.resolved = none) →
      Additions stands r ((register { uri := here.key, body }).run r').2 ∧
        ∀ i, ((register { uri := here.key, body }).run r').1 = .ok i →
          ((register { uri := here.key, body }).run r').2.lookup here.key = some i := by
    intro r' body hadds hrep hunlinked
    rw [run_register]
    refine ⟨hadds.trans (additions_add hv hrep hunlinked), fun i hi => ?_⟩
    cases hi
    exact r'.lookup_add { uri := here.key, body }
  have hthrow : ∀ e, Additions stands r ((throw e : Compile Nat).run r).2 ∧
      ∀ i, ((throw e : Compile Nat).run r).1 = .ok i →
        ((throw e : Compile Nat).run r).2.lookup here.key = some i :=
    fun e => ⟨Additions.refl r, fun i hi => nomatch hi⟩
  cases v with
  | bool b => exact hregister r (.bool b) (Additions.refl r) (.bool b) fun _ href => nomatch href
  | object members =>
      -- first everything inside is compiled, and then the node is added
      obtain ⟨hadds, hyields⟩ :=
        additions_reading hc (keywords_asks here members) (hclosed here members hv) hr
      have hrun : (schema compile here (.object members)).run r =
          ((keywords here members).run compile >>= fun k =>
            register { uri := here.key, body := .keywords k }).run r := rfl
      rw [hrun, run_bind]
      generalize ((keywords here members).run compile).run r = p at hadds hyields
      obtain ⟨answer, r'⟩ := p
      cases answer with
      | error e => exact ⟨hadds, fun i hi => nomatch hi⟩
      | ok k =>
          have hread := hyields k rfl
          exact hregister r' (.keywords k) hadds (represents_keywords (hadds.coherent hr) hread)
            fun ref href => resolved_of_yields hread href
  | _ => exact hthrow _

/-- **Compiling adds nodes for the schemas that stand somewhere**, however high the schema is, and
whatever nodes were there before. -/
theorem within_adding (hclosed : ClosedInside stands) (height : Nat) :
    Adding stands (within height) := by
  induction height with
  | zero =>
      refine schema_adding hclosed fun here v r _ _ => ?_
      exact ⟨Additions.refl r, fun i hi => nomatch hi⟩
  | succ height ih => exact schema_adding hclosed ih

/-! ## Faithful registries stay faithful -/

/-- A compilation from a faithful registry ends with a faithful one, and its answer is the index of
the place. -/
structure Compiled (stands : Target → Value → Prop) (here : Target) (r : Registry)
    (p : Except SchemaError Nat × Registry) : Prop where
  /-- The registry is still faithful. -/
  faithful : p.2.Faithful stands
  /-- It has grown. -/
  grows : r.Grows p.2
  /-- The answer is the index of the place. -/
  found : ∀ i, p.1 = .ok i → p.2.lookup here.key = some i

/-- Whatever schema is compiled where it stands, a faithful registry stays faithful. -/
def KeepsFaithful (stands : Target → Value → Prop) (compile : Target → Value → Compile Nat) :
    Prop :=
  ∀ here v r, stands here v → r.Faithful stands → Compiled stands here r ((compile here v).run r)

/-- The nodes that were there represent what they did, and those that were added what they were
added for. -/
theorem Additions.faithful {r r' : Registry} (h : Additions stands r r') (hr : r.Faithful stands) :
    r'.Faithful stands where
  coherent := h.coherent hr.coherent
  found := by
    intro i node hi
    by_cases hlt : i < r.size
    · rw [h.keeps.get? hlt] at hi
      exact h.grows _ _ (hr.found hi)
    · obtain ⟨here, v, hv⟩ := h.added hi (Nat.not_lt.mp hlt)
      rw [hv.uri]
      exact hv.found
  compiled := by
    intro i node hi
    by_cases hlt : i < r.size
    · rw [h.keeps.get? hlt] at hi
      obtain ⟨here, v, huri, hv, hrep⟩ := hr.compiled hi
      exact ⟨here, v, huri, hv, hrep.grows h.grows⟩
    · obtain ⟨here, v, hv⟩ := h.added hi (Nat.not_lt.mp hlt)
      exact ⟨here, v, hv.uri, hv.holds, hv.represents⟩

/-- **Compiling keeps a registry faithful**, however high the schema is. -/
theorem within_keepsFaithful (hclosed : ClosedInside stands) (height : Nat) :
    KeepsFaithful stands (within height) := by
  intro here v r hv hr
  obtain ⟨hadds, hfound⟩ := within_adding hclosed height here v r hv hr.coherent
  exact ⟨hadds.faithful hr, hadds.grows, hfound⟩

/-! ## Nodes are only added

Whatever is compiled, and whether it succeeds or not, nodes are added one by one, and each after
those of its sub-schemas. The nodes that are there stay in front.
-/

/-- What can be read from a schema when only indices below a bound are given. -/
inductive ReadBelow (bound : Nat) : Body → Prop
  | bool (b : Bool) : ReadBelow bound (.bool b)
  | keywords {here : Target} {members : Members Value} {k : Keywords} :
      (keywords here members).Yields (fun _ i => i < bound) k → ReadBelow bound (.keywords k)

/-- One node is added, unless there is one with its key. -/
inductive Adds (r : Registry) : Registry → Prop
  | node (uri : String) {body : Body} : ReadBelow r.size body → Adds r (r.add { uri, body }).2

/-- A compilation adds nodes in turn, and its answer is the index of one that is there then. -/
structure Builds (r : Registry) (p : Except SchemaError Nat × Registry) : Prop where
  adds : Relation.ReflTransGen Adds r p.2
  index : ∀ i, p.1 = .ok i → i < p.2.size

variable {compile : Target → Value → Compile Nat}

theorem extends_of_adds {r r' : Registry} (h : Relation.ReflTransGen Adds r r') : r.Extends r' := by
  induction h with
  | refl => exact Registry.Extends.refl r
  | tail _ hstep ih =>
      cases hstep with
      | node uri _ => exact ih.trans (Registry.extends_add _ _)

theorem coherent_of_adds {r r' : Registry} (hr : r.Coherent)
    (h : Relation.ReflTransGen Adds r r') : r'.Coherent := by
  induction h with
  | refl => exact hr
  | tail _ hstep ih =>
      cases hstep with
      | node uri _ => exact ih.add _

theorem reading_builds
    (hc : ∀ here v (r : Registry), r.Coherent → Builds r ((compile here v).run r))
    (m : Reading α) {r : Registry} (hr : r.Coherent) :
    Relation.ReflTransGen Adds r ((m.run compile).run r).2 ∧
      ∀ a, ((m.run compile).run r).1 = .ok a →
        m.Yields (fun _ i => i < ((m.run compile).run r).2.size) a := by
  induction m generalizing r with
  | done a =>
      refine ⟨.refl, fun b hb => ?_⟩
      cases hb
      exact .done a
  | failed e => exact ⟨.refl, fun b hb => nomatch hb⟩
  | needs place v next ih =>
      have hplace := hc place v r hr
      rw [Reading.run, run_bind]
      generalize (compile place v).run r = p at hplace
      obtain ⟨answer, r'⟩ := p
      cases answer with
      | error e => exact ⟨hplace.adds, fun b hb => nomatch hb⟩
      | ok i =>
          obtain ⟨hadds, hyields⟩ := ih i (coherent_of_adds hr hplace.adds)
          refine ⟨hplace.adds.trans hadds, fun a ha => ?_⟩
          -- the nodes that are added for the rest leave the index below the size
          have hsize := (extends_of_adds hadds).size_le
          exact .needs (Nat.lt_of_lt_of_le (hplace.index i rfl) hsize) (hyields a ha)

theorem register_builds {r r' : Registry} (hr : r.Coherent)
    (h : Relation.ReflTransGen Adds r r') (uri : String)
    {body : Body} (hbody : ReadBelow r'.size body) :
    Builds r ((register { uri, body }).run r') := by
  rw [run_register]
  refine ⟨h.tail (.node uri hbody), fun i hi => ?_⟩
  cases hi
  exact (coherent_of_adds hr h).fst_add_lt _

theorem schema_builds
    (hc : ∀ here v (r : Registry), r.Coherent → Builds r ((compile here v).run r))
    (here : Target) (v : Value) {r : Registry} (hr : r.Coherent) :
    Builds r ((schema compile here v).run r) := by
  have hthrow : ∀ e, Builds r ((throw e : Compile Nat).run r) :=
    fun e => ⟨.refl, fun i hi => nomatch hi⟩
  cases v with
  | bool b => exact register_builds hr .refl _ (.bool b)
  | object members =>
      obtain ⟨hadds, hyields⟩ := reading_builds hc (keywords here members) hr
      show Builds r (((keywords here members).run compile >>= fun k =>
        register { uri := here.key, body := .keywords k }).run r)
      rw [run_bind]
      generalize ((keywords here members).run compile).run r = p at hadds hyields
      obtain ⟨answer, r'⟩ := p
      cases answer with
      | error e => exact ⟨hadds, fun i hi => nomatch hi⟩
      | ok k => exact register_builds hr hadds _ (.keywords (hyields k rfl))
  | _ => exact hthrow _

/-- **Compiling adds nodes in turn**, each after those of its sub-schemas. -/
theorem within_builds (height : Nat) (here : Target) (v : Value) {r : Registry} (hr : r.Coherent) :
    Builds r ((within height here v).run r) := by
  induction height generalizing here v r with
  | zero =>
      refine schema_builds (fun here v r _ => ?_) here v hr
      exact ⟨.refl, fun i hi => nomatch hi⟩
  | succ height ih => exact schema_builds (fun here v _ hr => ih here v hr) here v hr

theorem within_extends (height : Nat) (here : Target) (v : Value) {r : Registry}
    (hr : r.Coherent) : r.Extends ((within height here v).run r).2 :=
  extends_of_adds (within_builds height here v hr).adds

end Compile

end JsonSchema
