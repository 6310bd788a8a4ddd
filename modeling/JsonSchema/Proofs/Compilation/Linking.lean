import JsonSchema.Proofs.Compilation.Roots

/-!
# Linking

Linking goes over the registry again and again, and each time the schemas are compiled that some
reference leads to. It ends when nothing is open, or when nothing more can be compiled.

Every target that has been dealt with has a node, or else what is missing there has been noted. So
if nothing is missing in the end, there is no open reference, for its target has been dealt with and
so has a node.
And the end is reached within the bound: whenever a pass is followed by another one, it has dealt
with a place in the documents that had not been dealt with before.
-/

namespace JsonSchema

open Direct Compile

namespace Registry

variable {stands : Target → Value → Prop}

/-! ## One round of linking -/

theorem uri_linkNode (r : Registry) (node : Node) : (r.linkNode node).uri = node.uri := by
  unfold linkNode
  split <;> rfl

theorem get?_link (r : Registry) (i : Nat) : r.link.2.get? i = (r.get? i).map r.linkNode :=
  Array.getElem?_map

/-- Linking leaves the index of keys alone. -/
theorem lookup_link (r : Registry) (key : String) : r.link.2.lookup key = r.lookup key := rfl

/-- Every node is where it was, with its key. -/
theorem Coherent.link {r : Registry} (h : r.Coherent) : r.link.2.Coherent := by
  intro key i hi
  obtain ⟨node, hnode, huri⟩ := h key i hi
  rw [get?_link, hnode]
  exact ⟨r.linkNode node, rfl, (uri_linkNode r node).trans huri⟩

theorem grows_link (r : Registry) : r.Grows r.link.2 := by
  intro key i h
  rw [lookup_link]
  exact h

theorem linkedFrom_linkRef {r : Registry} {ref ref' : Reference} (h : r.LinkedFrom ref ref') :
    r.LinkedFrom ref (r.linkRef ref') := by
  unfold linkRef
  split
  · exact ⟨h.target, fun i hi => hi⟩
  · exact h

theorem found_link {r : Registry}
    (h : ∀ {i node}, r.get? i = some node → r.lookup node.uri = some i) {i : Nat} {node : Node}
    (hi : r.link.2.get? i = some node) :
    r.link.2.lookup node.uri = some i := by
  rw [get?_link] at hi
  obtain ⟨node, hnode, rfl⟩ := Option.map_eq_some_iff.mp hi
  rw [uri_linkNode, lookup_link]
  exact h hnode

theorem Faithful.link {r : Registry} (h : r.Faithful stands) : r.link.2.Faithful stands where
  coherent := h.coherent.link
  found := found_link h.found
  compiled := by
    intro i node hi
    rw [get?_link] at hi
    obtain ⟨node, hnode, rfl⟩ := Option.map_eq_some_iff.mp hi
    obtain ⟨here, v, huri, hv, hrep⟩ := h.compiled hnode
    refine ⟨here, v, (uri_linkNode r node).trans huri, hv, Represents.grows (grows_link r) ?_⟩
    unfold linkNode
    obtain ⟨uri, body⟩ := node
    -- linking changes nothing but the links of references
    cases hrep with
    | bool b => exact .bool b
    | @keywords _ k ref hk hl =>
        refine .keywords hk ?_
        show Option.Rel r.LinkedFrom ref (k.ref.map r.linkRef)
        generalize k.ref = ref' at hl ⊢
        cases hl with
        | none => exact .none
        | some hl => exact .some (linkedFrom_linkRef hl)

/-- Every reference is linked. -/
def Linked (r : Registry) : Prop :=
  ∀ {i node ref}, r.get? i = some node → node.ref? = some ref → ∃ j, ref.resolved = some j

/-- If no target is missing, every reference is linked afterwards. -/
theorem linked_of_link {r : Registry} (h : r.link.1 = []) : r.link.2.Linked := by
  intro i node ref hi href
  rw [get?_link] at hi
  obtain ⟨⟨uri, body⟩, hnode, rfl⟩ := Option.map_eq_some_iff.mp hi
  cases body with
  | bool b => exact nomatch href
  | keywords k =>
      obtain ⟨own, hown, rfl⟩ := Option.map_eq_some_iff.mp href
      -- its target is not missing, or it would be in the list
      have hmissing : r.missing? ⟨uri, .keywords k⟩ = none := by
        refine List.filterMap_eq_nil_iff.mp h _ ?_
        exact Array.mem_toList_iff.mpr (Array.mem_of_getElem? hnode)
      unfold linkRef
      split
      · rename_i hopen
        -- an open reference is linked in this round, because its target has a node
        have hopenRef : openRef? ⟨uri, .keywords k⟩ = some own := by
          show k.ref.filter _ = some own
          rw [hown, Option.filter_some, if_pos hopen]
        unfold missing? at hmissing
        rw [hopenRef] at hmissing
        dsimp only at hmissing
        split at hmissing
        · exact nomatch hmissing
        · rename_i hfound
          exact Option.ne_none_iff_exists'.mp fun hnone =>
            hfound (Option.isNone_iff_eq_none.mpr hnone)
      · rename_i hopen
        exact Option.ne_none_iff_exists'.mp fun hnone => hopen (Option.isNone_iff_eq_none.mpr hnone)

/-- A target is missing if a reference leads there that is not linked and there is no node. -/
theorem missing?_eq_some {r : Registry} {node : Node} {target : Target} :
    r.missing? node = some target ↔ ∃ ref, node.ref? = some ref ∧ ref.resolved = none ∧
      ref.target = target ∧ r.lookup target.key = none := by
  unfold missing? openRef?
  cases node.ref? with
  | none => simp
  | some ref =>
      rw [Option.filter_some]
      by_cases hopen : ref.resolved = none
      · rw [hopen, Option.isNone_none, if_pos rfl]
        dsimp only
        by_cases hkey : r.lookup ref.target.key = none
        · rw [hkey, Option.isNone_none, if_pos rfl]
          refine ⟨fun h => ?_, fun ⟨_, href, _, htarget, _⟩ => ?_⟩
          · cases h
            exact ⟨ref, rfl, hopen, rfl, hkey⟩
          · cases href
            rw [htarget]
        · rw [if_neg fun h => hkey (Option.isNone_iff_eq_none.mp h)]
          refine ⟨fun h => (nomatch h), fun ⟨_, href, _, htarget, hnone⟩ => ?_⟩
          cases href
          rw [← htarget] at hnone
          exact absurd hnone hkey
      · rw [if_neg fun h => hopen (Option.isNone_iff_eq_none.mp h)]
        refine ⟨fun h => (nomatch h), fun ⟨_, href, hnone, _⟩ => ?_⟩
        cases href
        exact absurd hnone hopen

/-- A target that is missing has no node. -/
theorem lookup_of_mem_link {r : Registry} {target : Target} (h : target ∈ r.link.1) :
    r.lookup target.key = none := by
  obtain ⟨node, _, hmissing⟩ := List.mem_filterMap.mp h
  obtain ⟨_, _, _, _, hnone⟩ := missing?_eq_some.mp hmissing
  exact hnone

/-- Linking changes no target. -/
theorem ref?_of_link {r : Registry} {i : Nat} {node : Node} {ref : Reference}
    (hn : r.link.2.get? i = some node) (href : node.ref? = some ref) :
    ∃ node' ref', r.get? i = some node' ∧ node'.ref? = some ref' ∧ ref'.target = ref.target := by
  rw [get?_link] at hn
  obtain ⟨node', hnode', rfl⟩ := Option.map_eq_some_iff.mp hn
  obtain ⟨uri, body⟩ := node'
  cases body with
  | bool b => exact nomatch href
  | keywords k =>
      obtain ⟨ref', href', rfl⟩ := Option.map_eq_some_iff.mp href
      refine ⟨_, ref', hnode', href', ?_⟩
      unfold linkRef
      split <;> rfl

/-- A target without a node is missing. -/
theorem Faithful.missing?_of_lookup {r : Registry} (h : r.Faithful stands) {i : Nat} {node : Node}
    {ref : Reference} (hn : r.get? i = some node) (href : node.ref? = some ref)
    (hnone : r.lookup ref.target.key = none) : r.missing? node = some ref.target := by
  refine missing?_eq_some.mpr ⟨ref, href, ?_, rfl, hnone⟩
  -- a link would lead to a node
  refine Option.eq_none_iff_forall_ne_some.mpr fun j hj => ?_
  rw [h.lookup_of_resolved hn href hj] at hnone
  exact nomatch hnone

theorem Faithful.mem_link {r : Registry} (h : r.Faithful stands) {i : Nat} {node : Node}
    {ref : Reference} (hn : r.get? i = some node) (href : node.ref? = some ref)
    (hnone : r.lookup ref.target.key = none) : ref.target ∈ r.link.1 := by
  refine List.mem_filterMap.mpr ⟨node, ?_, h.missing?_of_lookup hn href hnone⟩
  exact Array.mem_toList_iff.mpr (Array.mem_of_getElem? hn)

/-- Where a reference of a node leads to a schema, there is a node. -/
def Bound (documents : List Value) (r : Registry) : Prop :=
  ∀ {i node ref v}, r.get? i = some node → node.ref? = some ref →
    valueAt documents ref.target = some v → (r.lookup ref.target.key).isSome = true

theorem bound_of_linked {documents : List Value} {r : Registry} (hf : r.Faithful stands)
    (hl : r.Linked) : r.Bound documents := by
  intro i node ref v hn href _
  obtain ⟨j, hj⟩ := hl hn href
  rw [hf.lookup_of_resolved hn href hj]
  rfl

/-- A reference leads where the `$ref` of the schema does from which its node was compiled. -/
theorem Faithful.refersTo {r : Registry} (h : r.Faithful stands) {i : Nat} {node : Node}
    {ref : Reference} (hn : r.get? i = some node) (href : node.ref? = some ref) :
    ∃ here members, node.uri = here.key ∧ stands here (.object members) ∧
      RefersTo here.base members ref.target := by
  obtain ⟨here, v, huri, hv, hrep⟩ := h.compiled hn
  obtain ⟨uri, body⟩ := node
  cases hrep with
  | bool b => exact nomatch href
  | @keywords members k own hk hl =>
      rw [show k.ref = some ref from href] at hl
      cases hl with
      | some hl =>
          exact ⟨here, members, huri, hv,
            (refersTo_iff (optional_ref_of_yields hk) _).mpr ⟨_, rfl, hl.target.symm⟩⟩

/-- Some schema refers to the target. -/
def Sought (stands : Target → Value → Prop) (target : Target) : Prop :=
  ∃ here members, stands here (.object members) ∧ RefersTo here.base members target

theorem Faithful.sought {r : Registry} (h : r.Faithful stands) {target : Target}
    (ht : target ∈ r.link.1) : Sought stands target := by
  obtain ⟨node, hnode, hmissing⟩ := List.mem_filterMap.mp ht
  obtain ⟨ref, href, _, rfl, _⟩ := missing?_eq_some.mp hmissing
  obtain ⟨i, hi⟩ := List.mem_iff_getElem?.mp hnode
  obtain ⟨here, members, _, hv, hrefers⟩ := h.refersTo ((Array.getElem?_toList).symm.trans hi) href
  exact ⟨here, members, hv, hrefers⟩

end Registry

namespace Bundle

variable {stands : Target → Value → Prop} {documents : List Value} {kept : Members Value}

/-! ## Keys of places in the documents -/

/-- The keys of all places in the documents that are kept. -/
def placeKeys (kept : Members Value) : List String :=
  kept.flatMap fun (name, document) =>
    document.ways.map fun way => if way.isEmpty then name else name ++ "#" ++ Pointer.text ⟨way⟩

theorem length_placeKeys (kept : Members Value) : (placeKeys kept).length = placeCount kept := by
  induction kept with
  | nil => rfl
  | cons p rest ih =>
      unfold placeKeys at ih ⊢
      rw [List.flatMap_cons, List.length_append, List.length_map, Value.length_ways, ih]
      rfl

theorem key_mem_placeKeys {target : Target} {document v : Value}
    (hdocument : kept.get? target.base.text = some document)
    (hv : Pointer.walk target.pointer.tokens document = some v) : target.key ∈ placeKeys kept := by
  refine List.mem_flatMap.mpr ⟨_, Members.mem_of_get? hdocument, ?_⟩
  exact List.mem_map.mpr ⟨_, Pointer.mem_ways_of_walk hv, rfl⟩

/-- How many keys have not been dealt with. -/
def remaining (kept : Members Value) (s : Linking) : Nat :=
  ((placeKeys kept).filter fun key => !s.attempted.contains key).length

theorem mem_open {s : Linking} {key : String} :
    key ∈ (placeKeys kept).filter (fun key => !s.attempted.contains key) ↔
      key ∈ placeKeys kept ∧ key ∉ s.attempted := by
  simp only [List.mem_filter, Bool.not_eq_true', List.contains_eq_mem, decide_eq_false_iff_not]

theorem open_sublist {s s' : Linking} (h : ∀ key ∈ s.attempted, key ∈ s'.attempted) :
    ((placeKeys kept).filter fun key => !s'.attempted.contains key).Sublist
      ((placeKeys kept).filter fun key => !s.attempted.contains key) := by
  refine List.monotone_filter_right _ fun key hkey => ?_
  simp only [Bool.not_eq_true', List.contains_eq_mem, decide_eq_false_iff_not] at hkey ⊢
  exact fun hmem => hkey (h key hmem)

theorem remaining_le {s s' : Linking} (h : ∀ key ∈ s.attempted, key ∈ s'.attempted) :
    remaining kept s' ≤ remaining kept s := (open_sublist h).length_le

/-- Fewer keys are left when one of them has been dealt with. -/
theorem remaining_lt {s s' : Linking} (h : ∀ key ∈ s.attempted, key ∈ s'.attempted) {key : String}
    (hkey : key ∈ placeKeys kept) (hold : key ∉ s.attempted) (hnew : key ∈ s'.attempted) :
    remaining kept s' < remaining kept s := by
  refine Nat.lt_of_not_le fun hle => ?_
  -- if as many were left, the same keys would be left
  have hsub := @open_sublist kept s s' h
  have heq := hsub.eq_of_length_le hle
  have hmem := mem_open.mpr ⟨hkey, hold⟩
  rw [← heq] at hmem
  exact (mem_open.mp hmem).2 hnew

/-! ## One target after another -/

/-- What has been noted after one more thing is found missing. -/
def noting (undefined : List String) (uri : String) : List String :=
  if undefined.contains uri then undefined else undefined ++ [uri]

theorem mem_noting {undefined : List String} {uri u : String} :
    u ∈ noting undefined uri ↔ u ∈ undefined ∨ u = uri := by
  unfold noting
  split
  · rename_i h
    refine ⟨Or.inl, fun hu => hu.elim id fun he => ?_⟩
    rw [he]
    exact List.contains_iff_mem.mp h
  · rw [List.mem_append, List.mem_singleton]

theorem mem_foldl_noting {undefined l : List String} {u : String} :
    u ∈ l.foldl noting undefined ↔ u ∈ undefined ∨ u ∈ l := by
  induction l generalizing undefined with
  | nil => simp
  | cons uri rest ih => rw [List.foldl_cons, ih, mem_noting, List.mem_cons, or_assoc]

/-- The target has a node, or what is missing there has been noted. -/
def Settled (documents : List Value) (s : Linking) (target : Target) : Prop :=
  match absent documents target with
  | none => (s.registry.lookup target.key).isSome = true
  | some uri => uri ∈ s.undefined

theorem Settled.mono {s s' : Linking} {target : Target} (h : Settled documents s target)
    (hgrows : s.registry.Grows s'.registry) (hnoted : ∀ u ∈ s.undefined, u ∈ s'.undefined) :
    Settled documents s' target := by
  unfold Settled at h ⊢
  split at h
  · exact hgrows.isSome h
  · exact hnoted _ h

/-- What is known of the state of linking at any time. -/
structure Good (documents : List Value) (stands : Target → Value → Prop) (s : Linking) : Prop where
  /-- Every node represents a schema. -/
  faithful : s.registry.Faithful stands
  /-- Every target that has been dealt with is settled. -/
  settled : ∀ target, target.key ∈ s.attempted → Settled documents s target

/-- What dealing with some targets does. -/
structure Advance (documents : List Value) (stands : Target → Value → Prop) (kept : Members Value)
    (targets : List Target) (s s' : Linking) : Prop where
  /-- The state is as good as before. -/
  good : Good documents stands s'
  /-- The registry has grown. -/
  grows : s.registry.Grows s'.registry
  /-- The old nodes come first in it. -/
  extended : s.registry.Extends s'.registry
  /-- What has been dealt with stays so. -/
  attempted : ∀ key ∈ s.attempted, key ∈ s'.attempted
  /-- The targets have been dealt with. -/
  reached : ∀ target ∈ targets, target.key ∈ s'.attempted
  /-- What is missing has been noted, in the order of the targets. -/
  noted : s'.undefined = (targets.filterMap (absent documents)).foldl noting s.undefined
  /-- If something has been compiled, fewer keys are left. -/
  progress : s'.progressed = true → s.progressed = true ∨ remaining kept s' < remaining kept s
  /-- If nothing has been compiled, the registry is the same. -/
  idle : s'.progressed = false → s.progressed = false ∧ s'.registry = s.registry

theorem Advance.refl {s : Linking} (h : Good documents stands s) :
    Advance documents stands kept [] s s :=
  ⟨h, Registry.Grows.refl _, Registry.Extends.refl _, fun _ hk => hk,
    fun _ ht => absurd ht List.not_mem_nil, rfl, Or.inl, fun hp => ⟨hp, rfl⟩⟩

theorem Advance.cons {s₀ s₁ s₂ : Linking} {target : Target} {targets : List Target}
    (h : Advance documents stands kept [target] s₀ s₁)
    (h' : Advance documents stands kept targets s₁ s₂) :
    Advance documents stands kept (target :: targets) s₀ s₂ where
  good := h'.good
  grows := h.grows.trans h'.grows
  extended := h.extended.trans h'.extended
  attempted key hkey := h'.attempted key (h.attempted key hkey)
  reached t ht := by
    rcases List.mem_cons.mp ht with rfl | ht
    · exact h'.attempted _ (h.reached t List.mem_cons_self)
    · exact h'.reached t ht
  noted := by
    rw [h'.noted, h.noted, ← List.foldl_append, ← List.filterMap_append, List.singleton_append]
  progress hp := by
    -- whichever of the two compiled something, fewer keys are left in the end
    rcases h'.progress hp with hp | hlt
    · rcases h.progress hp with hp | hlt
      · exact Or.inl hp
      · exact Or.inr (Nat.lt_of_le_of_lt (remaining_le h'.attempted) hlt)
    · exact Or.inr (Nat.lt_of_lt_of_le hlt (remaining_le h.attempted))
  idle hp := by
    obtain ⟨hp, hr'⟩ := h'.idle hp
    obtain ⟨hp, hr⟩ := h.idle hp
    exact ⟨hp, hr'.trans hr⟩

theorem noted_singleton {target : Target} {uri : String} (h : absent documents target = some uri)
    (undefined : List String) :
    ([target].filterMap (absent documents)).foldl noting undefined = noting undefined uri := by
  rw [List.filterMap_cons_some h]
  rfl

theorem noted_of_none {target : Target} (h : absent documents target = none)
    (undefined : List String) :
    ([target].filterMap (absent documents)).foldl noting undefined = undefined := by
  rw [List.filterMap_cons_none h]
  rfl

/-- A target that has been dealt with before. -/
theorem advance_again {s : Linking} (h : Good documents stands s) {target : Target}
    (hold : target.key ∈ s.attempted) : Advance documents stands kept [target] s s := by
  refine ⟨h, Registry.Grows.refl _, Registry.Extends.refl _, fun _ hk => hk, fun t ht => ?_, ?_,
    Or.inl, fun hp => ⟨hp, rfl⟩⟩
  · rw [List.mem_singleton.mp ht]
    exact hold
  · -- what is missing there has been noted already
    have hsettled := h.settled target hold
    unfold Settled at hsettled
    split at hsettled
    · rename_i hnone
      rw [noted_of_none hnone]
    · rename_i uri huri
      rw [noted_singleton huri, noting, if_pos (List.contains_iff_mem.mpr hsettled)]

/-- A target for which something is missing. -/
theorem advance_note {s : Linking} (h : Good documents stands s) {target : Target} {uri : String}
    (huri : absent documents target = some uri) :
    Advance documents stands kept [target] s
      (Linking.note { s with attempted := target.key :: s.attempted } uri) := by
  have hnote : ∀ t : Linking, (t.note uri).registry = t.registry ∧
      (t.note uri).attempted = t.attempted ∧ (t.note uri).progressed = t.progressed ∧
        (t.note uri).undefined = noting t.undefined uri := by
    intro t
    unfold Linking.note noting
    split <;> exact ⟨rfl, rfl, rfl, rfl⟩
  obtain ⟨hregistry, hattempted, hprogressed, hundefined⟩ :=
    hnote { s with attempted := target.key :: s.attempted }
  have hgrows : s.registry.Grows
      (Linking.note { s with attempted := target.key :: s.attempted } uri).registry := by
    rw [hregistry]
    exact Registry.Grows.refl _
  have hnoted : ∀ u ∈ s.undefined, u ∈ (Linking.note
      { s with attempted := target.key :: s.attempted } uri).undefined := by
    intro u hu
    rw [hundefined]
    exact mem_noting.mpr (Or.inl hu)
  refine ⟨⟨?_, fun t ht => ?_⟩, hgrows, ?_, fun key hkey => ?_, fun t ht => ?_, ?_, fun hp => ?_,
    fun hp => ?_⟩
  · rw [hregistry]
    exact h.faithful
  · rw [hattempted] at ht
    rcases List.mem_cons.mp ht with heq | ht
    · unfold Settled
      rw [Target.key_injective heq, huri, hundefined]
      exact mem_noting.mpr (Or.inr rfl)
    · exact (h.settled t ht).mono hgrows hnoted
  · rw [hregistry]
    exact Registry.Extends.refl _
  · rw [hattempted]
    exact List.mem_cons_of_mem _ hkey
  · rw [List.mem_singleton.mp ht, hattempted]
    exact List.mem_cons_self
  · rw [noted_singleton huri, hundefined]
  · rw [hprogressed] at hp
    exact Or.inl hp
  · rw [hprogressed] at hp
    exact ⟨hp, hregistry⟩

/-- A schema in a document keeps the base of the document. -/
theorem baseOf_of_documentAt {target : Target} {document v : Value}
    (hdocument : documentAt documents target.base = some document)
    (hwalk : Pointer.walk target.pointer.tokens document = some v) :
    baseOf target v = .ok target.base := by
  unfold baseOf
  split
  · rename_i hroot
    have htokens : target.pointer.tokens = [] := List.isEmpty_iff.mp hroot
    rw [htokens] at hwalk
    cases hwalk
    exact documentBase_of_text (mem_of_documentAt hdocument).2 rfl
  · rfl

/-- A target that is compiled. -/
theorem advance_compiled {s : Linking} (h : Good documents stands s) {target : Target}
    {document v : Value} {i : Nat} {registry : Registry} (hnew : target.key ∉ s.attempted)
    (hdocument : kept.get? target.base.text = some document)
    (hwalk : Pointer.walk target.pointer.tokens document = some v)
    (hnone : absent documents target = none)
    (hc : Compiled stands target s.registry (.ok i, registry))
    (hextends : s.registry.Extends registry) :
    Advance documents stands kept [target] s
      { s with attempted := target.key :: s.attempted, registry, progressed := true } := by
  have hmem : ∀ key ∈ s.attempted, key ∈ target.key :: s.attempted :=
    fun _ hk => List.mem_cons_of_mem _ hk
  refine ⟨⟨hc.faithful, fun t ht => ?_⟩, hc.grows, hextends, hmem, fun t ht => ?_, ?_,
    fun _ => Or.inr ?_, fun hp => nomatch hp⟩
  · rcases List.mem_cons.mp ht with heq | ht
    · -- the target has a node now
      unfold Settled
      rw [Target.key_injective heq, hnone]
      dsimp only
      rw [hc.found i rfl]
      rfl
    · exact (h.settled t ht).mono hc.grows fun _ hu => hu
  · rw [List.mem_singleton.mp ht]
    exact List.mem_cons_self
  · rw [noted_of_none hnone]
  · exact remaining_lt hmem (key_mem_placeKeys hdocument hwalk) hnew List.mem_cons_self

/-- Dealing with a target that some schema refers to. -/
theorem advance_attempt (hs : Supports documents stands)
    (howner : ∀ base : BaseUri, kept.get? base.text = documentAt documents base) {s s' : Linking}
    (hgood : Good documents stands s) {target : Target} (hsought : Registry.Sought stands target)
    (h : s.attempt kept target = .ok s') : Advance documents stands kept [target] s s' := by
  unfold Linking.attempt at h
  split at h
  · rename_i hold
    cases h
    exact advance_again hgood (List.contains_iff_mem.mp hold)
  · rename_i hnew
    dsimp only at h
    rw [howner] at h
    cases hdocument : documentAt documents target.base with
    | none =>
        rw [hdocument] at h
        cases h
        refine advance_note hgood ?_
        unfold absent
        rw [hdocument]
    | some document =>
        rw [hdocument] at h
        dsimp only at h
        rw [Pointer.resolve_eq_walk] at h
        cases hwalk : Pointer.walk target.pointer.tokens document with
        | none =>
            rw [hwalk] at h
            cases h
            refine advance_note hgood ?_
            unfold absent
            rw [hdocument]
            dsimp only
            rw [hwalk]
        | some v =>
            rw [hwalk] at h
            dsimp only at h
            have hvalue : valueAt documents target = some v := by
              unfold valueAt
              rw [hdocument]
              exact hwalk
            -- the schema that refers to the target stands somewhere, and so does what is there
            obtain ⟨here, members, hhere, hrefers⟩ := hsought
            have hc := within_keepsFaithful hs.closed v.height target v s.registry
              (hs.target hhere hrefers hvalue) hgood.faithful
            have hextends := within_extends v.height target v hgood.faithful.coherent
            rw [run_compileAt (baseOf_of_documentAt hdocument hwalk)] at h
            rcases hrun : (within v.height target v).run s.registry with ⟨answer, registry⟩
            rw [hrun] at h hc hextends
            cases answer with
            | error e => exact nomatch h
            | ok i =>
                cases h
                exact advance_compiled hgood (fun hmem => hnew (List.contains_iff_mem.mpr hmem))
                  ((howner _).trans hdocument) hwalk (absent_eq_none.mpr ⟨v, hvalue⟩) hc hextends

/-- Dealing with the targets of a pass. -/
theorem advance_attempts (hs : Supports documents stands)
    (howner : ∀ base : BaseUri, kept.get? base.text = documentAt documents base)
    {targets : List Target} (hsought : ∀ target ∈ targets, Registry.Sought stands target)
    {s s' : Linking} (hgood : Good documents stands s)
    (h : targets.foldlM (Linking.attempt kept) s = .ok s') :
    Advance documents stands kept targets s s' := by
  induction targets generalizing s with
  | nil => cases h; exact Advance.refl hgood
  | cons target rest ih =>
      rw [List.foldlM_cons] at h
      obtain ⟨s₁, hattempt, h⟩ := bind_eq_ok h
      have hstep := advance_attempt hs howner hgood (hsought target List.mem_cons_self) hattempt
      exact hstep.cons (ih (fun t ht => hsought t (List.mem_cons_of_mem _ ht)) hstep.good h)

/-! ## Passes -/

/-- The state in which a pass deals with the targets that are missing. -/
def Linking.opened (s : Linking) : Linking :=
  { s with registry := s.registry.link.2, progressed := false }

theorem Good.opened {s : Linking} (h : Good documents stands s) :
    Good documents stands s.opened where
  faithful := h.faithful.link
  settled target ht := (h.settled target ht).mono (Registry.grows_link _) fun _ hu => hu

/-- A pass over a good state. -/
theorem advance_pass (hs : Supports documents stands)
    (howner : ∀ base : BaseUri, kept.get? base.text = documentAt documents base) {s s' : Linking}
    (hgood : Good documents stands s)
    (h : s.registry.link.1.foldlM (Linking.attempt kept) s.opened = .ok s') :
    Advance documents stands kept s.registry.link.1 s.opened s' :=
  advance_attempts hs howner (fun _ ht => hgood.faithful.sought ht) hgood.opened h

/-- The last pass: no target is missing, or nothing is compiled for those that are. -/
inductive LastPass (documents : List Value) (stands : Target → Value → Prop) (kept : Members Value)
    (s : Linking) : Linking → Prop
  | complete : s.registry.link.1 = [] →
      LastPass documents stands kept s { s with registry := s.registry.link.2 }
  | idle {s' : Linking} : Advance documents stands kept s.registry.link.1 s.opened s' →
      s'.progressed = false → LastPass documents stands kept s s'

/-- Whatever the passes preserve holds before the last one, if the bound is beyond the number of
keys that are left. -/
theorem lastPass_of_passes (hs : Supports documents stands)
    (howner : ∀ base : BaseUri, kept.get? base.text = documentAt documents base)
    {P : Linking → Prop} (hgood : ∀ s, P s → Good documents stands s)
    (hstep : ∀ s s', P s → Advance documents stands kept s.registry.link.1 s.opened s' → P s')
    {bound : Nat} {s s' : Linking} (hp : P s) (hbound : remaining kept s < bound)
    (h : Linking.passes kept bound s = .ok s') :
    ∃ s₀, P s₀ ∧ LastPass documents stands kept s₀ s' := by
  induction bound generalizing s with
  | zero => exact absurd hbound (Nat.not_lt_zero _)
  | succ bound ih =>
      rw [Linking.passes] at h
      dsimp only at h
      split at h
      · rename_i hempty
        cases h
        exact ⟨s, hp, .complete (List.isEmpty_iff.mp hempty)⟩
      · obtain ⟨s₁, hattempts, h⟩ := bind_eq_ok h
        have hpass := advance_pass hs howner (hgood s hp) hattempts
        split at h
        · rename_i hprogressed
          -- something has been compiled, so the next pass has fewer keys left
          have hlt : remaining kept s₁ < remaining kept s := by
            rcases hpass.progress hprogressed with hprogress | hlt
            · exact nomatch hprogress
            · exact hlt
          exact ih (hstep s s₁ hp hpass) (Nat.lt_of_lt_of_le hlt (Nat.le_of_lt_succ hbound)) h
        · rename_i hidle
          cases h
          exact ⟨s, hp, .idle hpass (Bool.eq_false_iff.mpr hidle)⟩

/-- After the last pass the state is good, the registry has been linked, and every target that is
still missing is settled. -/
theorem LastPass.ends {s s' : Linking} (h : LastPass documents stands kept s s')
    (hgood : Good documents stands s) :
    Good documents stands s' ∧ s'.registry = s.registry.link.2 ∧
      ∀ target ∈ s.registry.link.1, Settled documents s' target := by
  cases h with
  | complete hnone =>
      refine ⟨⟨hgood.opened.faithful, hgood.opened.settled⟩, rfl, fun target ht => ?_⟩
      rw [hnone] at ht
      exact absurd ht List.not_mem_nil
  | idle hpass hidle =>
      refine ⟨hpass.good, (hpass.idle hidle).2, fun target ht => ?_⟩
      exact hpass.good.settled target (hpass.reached target ht)

/-- **Linking ends with every reference bound** that leads to a schema. -/
theorem LastPass.bound {s s' : Linking} (h : LastPass documents stands kept s s')
    (hgood : Good documents stands s) : s'.registry.Bound documents := by
  obtain ⟨_, hregistry, hsettled⟩ := h.ends hgood
  intro i node ref v hn href hv
  rw [hregistry] at hn
  obtain ⟨node', ref', hn', href', htarget⟩ := Registry.ref?_of_link hn href
  cases hkey : s.registry.lookup ref.target.key with
  | some j =>
      rw [hregistry, Registry.lookup_link, hkey]
      rfl
  | none =>
      -- a target without a node has been dealt with, and there is a schema to be compiled
      rw [← htarget] at hkey
      have hsettle := hsettled _ (hgood.faithful.mem_link hn' href' hkey)
      rw [htarget] at hsettle
      unfold Settled at hsettle
      rwa [absent_eq_none.mpr ⟨v, hv⟩] at hsettle

/-- **Linking ends with every reference linked**, if nothing is missing in the end. -/
theorem LastPass.linked {s s' : Linking} (h : LastPass documents stands kept s s')
    (hgood : Good documents stands s) (hnone : s'.undefined = []) : s'.registry.Linked := by
  obtain ⟨_, hregistry, hsettled⟩ := h.ends hgood
  have hmissing : s.registry.link.1 = [] := by
    refine List.eq_nil_iff_forall_not_mem.mpr fun target ht => ?_
    have hlookup := Registry.lookup_of_mem_link ht
    have htarget := hsettled target ht
    -- nothing has been noted, so a target that is settled has a node
    unfold Settled at htarget
    split at htarget
    · rw [hregistry, Registry.lookup_link, hlookup] at htarget
      exact nomatch htarget
    · rw [hnone] at htarget
      exact absurd htarget List.not_mem_nil
  intro i node ref hn href
  rw [hregistry] at hn
  exact Registry.linked_of_link hmissing hn href

/-- Before the first pass nothing has been dealt with. -/
def start (s : Roots) : Linking :=
  { registry := s.registry, attempted := [], undefined := [], progressed := false }

theorem good_start {s : Roots} (h : RootsOf stands documents s) :
    Good documents stands (start s) :=
  ⟨h.faithful, fun _ ht => absurd ht List.not_mem_nil⟩

/-- And there are as many keys as places. -/
theorem remaining_start (s : Roots) :
    remaining s.documents (start s) < placeCount s.documents + 1 := by
  rw [← length_placeKeys]
  exact Nat.lt_succ_of_le (List.length_filter_le _ _)

/-- **What accepted documents give.** Every node represents a schema, every reference is linked, and
each root has the index of the root of its document. -/
theorem linked_of_ofDocuments (hs : Supports documents stands) {bundle : Bundle}
    (h : ofDocuments documents = .ok bundle) :
    bundle.registry.Faithful stands ∧ bundle.registry.Linked ∧
      List.Forall₂ (fun document root => documentBase .anonymous document = .ok root.base ∧
        bundle.registry.lookup root.base.text = some root.index) documents bundle.roots := by
  unfold ofDocuments at h
  obtain ⟨s, hroots, h⟩ := bind_eq_ok h
  obtain ⟨linked, hpasses, h⟩ := bind_eq_ok h
  have hinv := rootsOf_compileRoots hs hroots
  split at h
  · rename_i hnone
    cases h
    -- the roots keep their indices from pass to pass
    obtain ⟨s₀, ⟨hgood, hgrows⟩, hlast⟩ := lastPass_of_passes hs hinv.owner
      (P := fun t => Good documents stands t ∧ s.registry.Grows t.registry) (fun _ hp => hp.1)
      (fun _ _ hp hpass => ⟨hpass.good, (hp.2.trans (Registry.grows_link _)).trans hpass.grows⟩)
      ⟨good_start hinv, Registry.Grows.refl _⟩ (remaining_start s) hpasses
    obtain ⟨hend, hregistry, _⟩ := hlast.ends hgood
    refine ⟨hend.faithful, hlast.linked hgood (List.isEmpty_iff.mp hnone),
      hinv.roots.imp fun d o ⟨hd, ho⟩ => ⟨hd, ?_⟩⟩
    rw [hregistry, Registry.lookup_link]
    exact hgrows _ _ ho
  · exact nomatch h

end Bundle

end JsonSchema
