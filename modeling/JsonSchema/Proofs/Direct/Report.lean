import JsonSchema.Proofs.Compilation.Completion
import JsonSchema.Proofs.Direct.Alike
import JsonSchema.Proofs.Direct.Reachable
import Mathlib.Data.List.Induction

/-!
# What is reported as missing

If every schema at a place that is reached is well-formed, nothing can go wrong but that a reference
leads nowhere. What is reported then does not depend on how the schemas were compiled in passes: it
is what is absent for the references of the nodes, in the order of the nodes, each thing once.

After every pass, what has been noted is what is absent for the nodes that the pass began with, and
new nodes come after these.
-/

namespace JsonSchema

open Compile Direct

/-- The kept document is an earlier one, or the document itself. -/
theorem equalsKept_of_earlier {documents : List Value}
    (hd : ∀ document ∈ documents, document.Distinct)
    (h : ∀ processed document rest, documents = processed ++ document :: rest → ∀ base owner,
      documentBase .anonymous document = .ok base → documentAt processed base = some owner →
      owner.same document = true) : EqualsKept documents := by
  intro document hmem base owner hbase howner
  obtain ⟨processed, rest, hsplit⟩ := List.append_of_mem hmem
  rw [hsplit, Bundle.documentAt_append, Bundle.documentAt_cons hbase] at howner
  cases hearlier : documentAt processed base with
  | none =>
      rw [hearlier] at howner
      cases howner
      exact (Value.Alike.refl document).same (hd document hmem)
  | some earlier =>
      rw [hearlier] at howner
      cases howner
      exact h processed document rest hsplit base owner hbase hearlier

theorem OneForEach.equalsKept {documents : List Value} (h : OneForEach documents)
    (hd : ∀ document ∈ documents, document.Distinct) : EqualsKept documents := by
  refine equalsKept_of_earlier hd fun processed document rest hsplit base owner hbase howner => ?_
  obtain ⟨hmem, hown⟩ := mem_of_documentAt howner
  rw [hsplit] at h
  exact (List.pairwise_append.mp h).2.2 owner hmem document List.mem_cons_self base hown hbase

namespace Bundle

variable {documents : List Value} {stands : Target → Value → Prop} {kept : Members Value}

/-! ## Noting each thing once -/

theorem foldl_noting_of_mem {undefined l : List String} (h : ∀ u ∈ l, u ∈ undefined) :
    l.foldl noting undefined = undefined := by
  induction l with
  | nil => rfl
  | cons u rest ih =>
      rw [List.forall_mem_cons] at h
      rw [List.foldl_cons, noting, if_pos (List.contains_iff_mem.mpr h.1)]
      exact ih h.2

/-- What comes first may be noted beforehand. -/
theorem foldl_noting_of_prefix {l l' : List String} (h : l <+: l') :
    l'.foldl noting (l.foldl noting []) = l'.foldl noting [] := by
  obtain ⟨rest, rfl⟩ := h
  have hnoted : ∀ u ∈ l, u ∈ l.foldl noting [] := fun u hu => mem_foldl_noting.mpr (Or.inr hu)
  rw [List.foldl_append, List.foldl_append, foldl_noting_of_mem hnoted]

theorem nodup_noting {undefined : List String} (h : undefined.Nodup) (u : String) :
    (noting undefined u).Nodup := by
  unfold noting
  split
  · exact h
  · rename_i hnew
    rw [List.contains_iff_mem] at hnew
    exact List.nodup_append.mpr ⟨h, List.nodup_singleton u, fun a ha b hb hab =>
      hnew (List.mem_singleton.mp hb ▸ hab ▸ ha)⟩

theorem nodup_foldl_noting (l : List String) {undefined : List String} (h : undefined.Nodup) :
    (l.foldl noting undefined).Nodup := by
  induction l generalizing undefined with
  | nil => exact h
  | cons u rest ih => exact ih (nodup_noting h u)

/-- What is noted is ordered by where it is met for the first time. -/
theorem pairwise_foldl_noting {α : Type} (f : α → Option String) (xs : List α) :
    ((xs.filterMap f).foldl noting []).Pairwise fun u u' =>
      xs.findIdx (f · == some u) < xs.findIdx (f · == some u') := by
  induction xs using List.reverseRecOn with
  | nil => exact .nil
  | append_singleton xs x ih =>
      have hmet : ∀ u ∈ (xs.filterMap f).foldl noting [],
          xs.findIdx (f · == some u) < xs.length := by
        intro u hu
        rcases mem_foldl_noting.mp hu with hu | hu
        · exact absurd hu List.not_mem_nil
        · obtain ⟨y, hy, hfy⟩ := List.mem_filterMap.mp hu
          exact List.findIdx_lt_length_of_exists ⟨y, hy, by rw [hfy, beq_self_eq_true]⟩
      -- what has been met keeps its place
      have hold : ((xs.filterMap f).foldl noting []).Pairwise fun u u' =>
          (xs ++ [x]).findIdx (f · == some u) < (xs ++ [x]).findIdx (f · == some u') := by
        refine ih.imp_of_mem fun {u u'} hu hu' hlt => ?_
        rw [List.findIdx_append, if_pos (hmet u hu), List.findIdx_append, if_pos (hmet u' hu')]
        exact hlt
      rw [List.filterMap_append]
      cases hx : f x with
      | none =>
          rw [List.filterMap_cons_none hx, List.filterMap_nil, List.append_nil]
          exact hold
      | some u =>
          rw [List.filterMap_cons_some hx, List.filterMap_nil, List.foldl_append]
          show (noting _ u).Pairwise _
          unfold noting
          split
          · exact hold
          · rename_i hnew
            rw [List.contains_iff_mem] at hnew
            refine List.pairwise_append.mpr ⟨hold, List.pairwise_singleton _ _, ?_⟩
            intro a ha b hb
            rw [List.mem_singleton.mp hb, List.findIdx_append, if_pos (hmet a ha),
              List.findIdx_append]
            have hnone : ¬ xs.findIdx (f · == some u) < xs.length := by
              rw [List.findIdx_lt_length]
              intro ⟨y, hy, hfy⟩
              refine hnew (mem_foldl_noting.mpr (Or.inr (List.mem_filterMap.mpr ⟨y, hy, ?_⟩)))
              exact eq_of_beq hfy
            rw [if_neg hnone]
            exact Nat.lt_of_lt_of_le (hmet a ha) (Nat.le_add_left _ _)

/-! ## What is absent for the nodes -/

/-- What is absent for the reference of a node. -/
def fault (documents : List Value) (node : Node) : Option String :=
  node.ref?.bind fun ref => absent documents ref.target

def faults (documents : List Value) (r : Registry) : List String :=
  r.nodes.toList.filterMap (fault documents)

theorem faults_prefix {r r' : Registry} (h : r.Extends r') :
    faults documents r <+: faults documents r' := h.filterMap _

theorem faults_link (r : Registry) : faults documents r.link.2 = faults documents r := by
  unfold faults
  show List.filterMap _ (r.nodes.map r.linkNode).toList = _
  rw [Array.toList_map, List.filterMap_map]
  refine congrArg (fun f => r.nodes.toList.filterMap f) (funext fun node => ?_)
  obtain ⟨uri, body⟩ := node
  cases body with
  | bool b => rfl
  | keywords k =>
      show (k.ref.map r.linkRef).bind _ = k.ref.bind _
      cases k.ref with
      | none => rfl
      | some ref =>
          show absent documents (r.linkRef ref).target = absent documents ref.target
          unfold Registry.linkRef
          split <;> rfl

/-- A pass comes upon all that is absent. -/
theorem absent_of_link {r : Registry} (hf : r.Faithful (StandsAt documents)) :
    r.link.1.filterMap (absent documents) = faults documents r := by
  show (r.nodes.toList.filterMap r.missing?).filterMap _ = r.nodes.toList.filterMap _
  rw [List.filterMap_filterMap]
  refine List.filterMap_congr fun node hnode => ?_
  obtain ⟨i, hi⟩ := List.mem_iff_getElem?.mp hnode
  have hi : r.get? i = some node := (Array.getElem?_toList).symm.trans hi
  unfold fault
  cases href : node.ref? with
  | none =>
      have hmissing : r.missing? node = none := by
        unfold Registry.missing? Registry.openRef?
        rw [href]
        rfl
      rw [hmissing]
      rfl
  | some ref =>
      show _ = absent documents ref.target
      cases hmissing : r.missing? node with
      | some target =>
          obtain ⟨ref', href', _, htarget, _⟩ := Registry.missing?_eq_some.mp hmissing
          rw [href] at href'
          cases href'
          rw [htarget]
          rfl
      | none =>
          -- a target that is not missing has a node, and there is a schema
          refine (absent_eq_none.mpr ?_).symm
          cases hkey : r.lookup ref.target.key with
          | some j =>
              obtain ⟨_, v, _, _, hv, _⟩ := represents_of_lookup hf hkey
              exact ⟨v, hv⟩
          | none =>
              rw [hf.missing?_of_lookup hi href hkey] at hmissing
              exact nomatch hmissing

/-! ## Passes -/

/-- What has been noted is what is absent for some of the first nodes. -/
def Noted (documents : List Value) (s : Linking) : Prop :=
  ∃ l, l <+: faults documents s.registry ∧ s.undefined = l.foldl noting []

theorem noted_pass (hv : ∀ here v, stands here v → StandsAt documents here v) {s s' : Linking}
    (hgood : Good documents stands s) (hnoted : Noted documents s)
    (hpass : Advance documents stands kept s.registry.link.1 s.opened s') :
    s'.undefined = (faults documents s.registry).foldl noting [] := by
  obtain ⟨l, hl, hundefined⟩ := hnoted
  rw [hpass.noted, absent_of_link (hgood.faithful.mono hv)]
  show List.foldl noting s.undefined _ = _
  rw [hundefined, foldl_noting_of_prefix hl]

theorem Noted.pass (hv : ∀ here v, stands here v → StandsAt documents here v) {s s' : Linking}
    (hgood : Good documents stands s) (hnoted : Noted documents s)
    (hpass : Advance documents stands kept s.registry.link.1 s.opened s') :
    Noted documents s' := by
  refine ⟨faults documents s.registry, ?_, noted_pass hv hgood hnoted hpass⟩
  rw [← faults_link]
  exact faults_prefix hpass.extended

/-- In the end all that is absent for the nodes has been noted. -/
theorem LastPass.undefined_eq (hv : ∀ here v, stands here v → StandsAt documents here v)
    {s s' : Linking} (h : LastPass documents stands kept s s') (hgood : Good documents stands s)
    (hnoted : Noted documents s) :
    s'.undefined = (faults documents s'.registry).foldl noting [] := by
  have hregistry := (h.ends hgood).2.1
  rw [hregistry, faults_link]
  cases h with
  | complete hnone =>
      -- no target is missing, so nothing is absent
      have hfaults := absent_of_link (hgood.faithful.mono hv)
      rw [hnone] at hfaults
      obtain ⟨l, hl, hundefined⟩ := hnoted
      rw [← hfaults] at hl ⊢
      rw [List.prefix_nil.mp hl] at hundefined
      exact hundefined
  | idle hpass _ => exact noted_pass hv hgood hnoted hpass

/-! ## The end of linking -/

/-- Compiles documents and links their references as far as they lead somewhere. -/
def linking (documents : List Value) : Except SchemaError Linking := do
  let s ← compileRoots documents
  Linking.passes s.documents (placeCount s.documents + 1) (start s)

/-- The documents are accepted if nothing is missing in the end. -/
theorem ofDocuments_of_linking {arena : Linking} (h : linking documents = .ok arena) :
    if arena.undefined = [] then ∃ bundle, ofDocuments documents = .ok bundle
    else ofDocuments documents = .error (.unresolved arena.undefined) := by
  obtain ⟨s, hroots, hpasses⟩ := bind_eq_ok h
  have hpasses : Linking.passes s.documents (placeCount s.documents + 1)
      { registry := s.registry, attempted := [], undefined := [], progressed := false } =
        .ok arena := hpasses
  unfold ofDocuments
  rw [hroots]
  simp only [Bind.bind, Except.bind, hpasses, List.isEmpty_iff]
  split
  · exact ⟨_, rfl⟩
  · rfl

theorem linking_of_ofDocuments {bundle : Bundle} (h : ofDocuments documents = .ok bundle) :
    ∃ arena, linking documents = .ok arena ∧ arena.undefined = [] := by
  unfold ofDocuments at h
  obtain ⟨s, hroots, h⟩ := bind_eq_ok h
  obtain ⟨arena, hpasses, h⟩ := bind_eq_ok h
  have hlinking : linking documents = .ok arena := by
    unfold linking
    rw [hroots]
    exact hpasses
  split at h
  · rename_i hnone
    exact ⟨arena, hlinking, List.isEmpty_iff.mp hnone⟩
  · exact nomatch h

/-- What is known when linking has ended. -/
structure Ended (documents : List Value) (stands : Target → Value → Prop) (arena : Linking) :
    Prop where
  faithful : arena.registry.Faithful stands
  based : ∀ document ∈ documents, ∃ base, documentBase .anonymous document = .ok base
  rooted : arena.registry.Rooted documents
  bound : arena.registry.Bound documents
  undefined : arena.undefined = (faults documents arena.registry).foldl noting []

theorem ended_of_linking (hs : Supports documents stands)
    (hv : ∀ here v, stands here v → StandsAt documents here v) {arena : Linking}
    (h : linking documents = .ok arena) : Ended documents stands arena := by
  obtain ⟨s, hroots, hpasses⟩ := bind_eq_ok h
  have hinv := rootsOf_compileRoots hs hroots
  have hnoted : Noted documents (start s) := ⟨[], List.nil_prefix, rfl⟩
  -- what holds from pass to pass
  obtain ⟨s₀, ⟨hgood, hgrows, hnoted⟩, hlast⟩ := lastPass_of_passes hs hinv.owner
    (P := fun t => Good documents stands t ∧ s.registry.Grows t.registry ∧ Noted documents t)
    (fun _ hp => hp.1)
    (fun _ _ hp hpass => ⟨hpass.good, (hp.2.1.trans (Registry.grows_link _)).trans hpass.grows,
      hp.2.2.pass hv hp.1 hpass⟩)
    ⟨good_start hinv, Registry.Grows.refl _, hnoted⟩ (remaining_start s) hpasses
  obtain ⟨hend, hregistry, _⟩ := hlast.ends hgood
  refine ⟨hend.faithful, fun document hmem => ?_, fun document hmem base hbase => ?_,
    hlast.bound hgood, hlast.undefined_eq hv hgood hnoted⟩
  · obtain ⟨root, hroot⟩ := exists_of_mem_left hinv.roots hmem
    exact ⟨root.base, hroot.1⟩
  · obtain ⟨owner, howner⟩ := exists_documentAt hmem hbase
    rw [hregistry, Registry.lookup_link]
    exact hgrows.isSome (hinv.root_isSome howner)

/-- A schema at a place that is reached refers to the target. -/
abbrev Referenced (documents : List Value) (target : Target) : Prop :=
  Registry.Sought (ReachedAt documents) target

variable {arena : Linking}

theorem Ended.mem_faults (h : Ended documents (ReachedAt documents) arena) {u : String} :
    u ∈ faults documents arena.registry ↔
      ∃ target, Referenced documents target ∧ absent documents target = some u := by
  have hstands := h.faithful.mono fun here v (hv : ReachedAt documents here v) => hv.2
  constructor
  · intro hu
    obtain ⟨node, hnode, hfault⟩ := List.mem_filterMap.mp hu
    obtain ⟨i, hi⟩ := List.mem_iff_getElem?.mp hnode
    obtain ⟨ref, href, habsent⟩ := Option.bind_eq_some_iff.mp hfault
    obtain ⟨here, members, _, hhere, hrefers⟩ :=
      h.faithful.refersTo ((Array.getElem?_toList).symm.trans hi) href
    exact ⟨ref.target, ⟨here, members, hhere, hrefers⟩, habsent⟩
  · rintro ⟨target, ⟨here, members, ⟨hreach, hv⟩, hrefers⟩, habsent⟩
    -- the schema that refers there has a node, and it has been linked no other way
    have hsome := Registry.isSome_of_reachable hstands h.rooted h.bound hreach
    obtain ⟨i, hi⟩ := Option.isSome_iff_exists.mp hsome
    obtain ⟨node, ref, hnode, href, rfl⟩ := hstands.ref?_of_refersTo hv hi hrefers
    refine List.mem_filterMap.mpr ⟨node, Array.mem_toList_iff.mpr (Array.mem_of_getElem? hnode), ?_⟩
    unfold fault
    rw [href]
    exact habsent

/-- If linking comes to an end, all schemas at places that are reached are well-formed. -/
theorem Ended.formed (h : Ended documents (ReachedAt documents) arena) {here : Target} {v : Value}
    (hv : ReachedAt documents here v) : v.formed here.base = true := by
  have hstands := h.faithful.mono fun here v (hv : ReachedAt documents here v) => hv.2
  have hsome := Registry.isSome_of_reachable hstands h.rooted h.bound hv.1
  obtain ⟨i, hi⟩ := Option.isSome_iff_exists.mp hsome
  obtain ⟨node, w, _, _, hw, hrep⟩ := represents_of_lookup hstands hi
  rw [hv.2] at hw
  cases hw
  exact formed_of_represents hrep

/-! ## Nothing else goes wrong -/

/-- A value that equals one which stands at a place that is reached. -/
def Alike (documents : List Value) (here : Target) (w : Value) : Prop :=
  ∃ v, ReachedAt documents here v ∧ v.same w = true ∧ w.Distinct

theorem closed_alike (hd : ∀ document ∈ documents, document.Distinct) :
    ClosedInside (Alike documents) := by
  intro here members ⟨v, hv, hsame, hdistinct⟩ p hp
  obtain ⟨own, rfl, _⟩ := Value.same_object hsame
  obtain ⟨q, hq, rfl⟩ := List.mem_map.mp hp
  have hown := hv.distinct hd
  obtain ⟨u, hu, hsame⟩ :=
    Subschemas.matched_inside (Subschemas.equals_of_same hown hsame) hown hdistinct q hq
  have hwalk := (Subschemas.reached_inside hdistinct q hq).2
  refine ⟨u, ⟨.inside (p := (q.1, u)) hv.1 hv.2 hu, valueAt_inside hd hv.2 hu⟩, hsame, ?_⟩
  exact (Pointer.walk_inside hwalk).2 hdistinct

/-- Every document compiles, also one that equals an earlier one. -/
theorem succeeds_document (hd : ∀ document ∈ documents, document.Distinct)
    (hkept : EqualsKept documents) (hformed : AllFormed (ReachedAt documents)) {document : Value}
    (hmem : document ∈ documents) {base : BaseUri}
    (hbase : documentBase .anonymous document = .ok base) :
    Succeeds (within document.height { base, pointer := .root } document) := by
  obtain ⟨owner, howner⟩ := exists_documentAt hmem hbase
  have halike : Alike documents { base, pointer := .root } document :=
    ⟨owner, (supports_reachable hd).root _ _ howner, hkept document hmem hbase howner, hd _ hmem⟩
  refine within_succeeds (closed_alike hd) (fun here w ⟨v, hv, hsame, hw⟩ => ?_) halike
    (Nat.le_refl _)
  exact formed_of_same hsame (hv.distinct hd) hw (hformed here v hv).2

/-- **Linking comes to an end** if all schemas at places that are reached are well-formed. -/
theorem exists_linking (hd : ∀ document ∈ documents, document.Distinct)
    (hbase : ∀ document ∈ documents, ∃ base, documentBase .anonymous document = .ok base)
    (hkept : EqualsKept documents)
    (hformed : ∀ here v, ReachedAt documents here v → v.formed here.base = true) :
    ∃ arena, linking documents = .ok arena := by
  have hs := supports_reachable hd
  have hall : AllFormed (ReachedAt documents) :=
    fun here v hv => ⟨hv.distinct hd, hformed here v hv⟩
  obtain ⟨s, hroots⟩ := exists_compileRoots hs hkept fun document hmem => by
    obtain ⟨base, hb⟩ := hbase document hmem
    exact ⟨base, hb, succeeds_document hd hkept hall hmem hb⟩
  have hinv := rootsOf_compileRoots hs hroots
  obtain ⟨arena, hpasses⟩ := exists_passes hs hall hinv.owner (placeCount s.documents + 1)
    (good_start hinv)
  refine ⟨arena, ?_⟩
  unfold linking
  rw [hroots]
  exact hpasses

/-! ## The report -/

/-- The position of the first node for whose reference this is absent. -/
def firstReferring (documents : List Value) (r : Registry) (u : String) : Nat :=
  r.nodes.toList.findIdx (fault documents · == some u)

theorem get?_firstReferring {r : Registry} {u : String} (hu : u ∈ faults documents r) :
    ∃ node, r.get? (firstReferring documents r u) = some node ∧ fault documents node = some u := by
  obtain ⟨node, hnode, hfault⟩ := List.mem_filterMap.mp hu
  have hlt : firstReferring documents r u < r.nodes.toList.length :=
    List.findIdx_lt_length_of_exists ⟨node, hnode, by rw [hfault, beq_self_eq_true]⟩
  refine ⟨r.nodes.toList[firstReferring documents r u], ?_, ?_⟩
  · show r.nodes[_]? = _
    rw [← Array.getElem?_toList, List.getElem?_eq_getElem hlt]
  · exact eq_of_beq (List.findIdx_getElem (w := hlt))

theorem Ended.mem_undefined (h : Ended documents (ReachedAt documents) arena) {u : String} :
    u ∈ arena.undefined ↔ u ∈ faults documents arena.registry := by
  rw [h.undefined, mem_foldl_noting]
  exact or_iff_right List.not_mem_nil

theorem Ended.undefined_eq_nil (h : Ended documents (ReachedAt documents) arena) :
    arena.undefined = [] ↔
      ∀ target, Referenced documents target → ∃ v, valueAt documents target = some v := by
  constructor
  · intro hnil target href
    refine absent_eq_none.mp (Option.eq_none_iff_forall_ne_some.mpr fun u hu => ?_)
    have hu := h.mem_undefined.mpr (h.mem_faults.mpr ⟨target, href, hu⟩)
    rw [hnil] at hu
    exact List.not_mem_nil hu
  · intro hall
    refine List.eq_nil_iff_forall_not_mem.mpr fun u hu => ?_
    obtain ⟨target, href, habsent⟩ := h.mem_faults.mp (h.mem_undefined.mp hu)
    rw [absent_eq_none.mpr (hall target href)] at habsent
    exact nomatch habsent

/-- Documents that compile equal those that are kept. -/
theorem equalsKept_of_linking (hd : ∀ document ∈ documents, document.Distinct)
    (h : linking documents = .ok arena) : EqualsKept documents := by
  obtain ⟨s, hroots, _⟩ := bind_eq_ok h
  refine equalsKept_of_earlier hd fun processed document rest hsplit base owner hbase howner => ?_
  have hprocessed : ∀ d ∈ processed, d.Distinct := by
    intro d hmem
    exact hd d (hsplit ▸ List.mem_append_left _ hmem)
  rw [hsplit, compileRoots, List.foldlM_append] at hroots
  obtain ⟨before, hbefore, hroots⟩ := bind_eq_ok hroots
  rw [List.foldlM_cons] at hroots
  obtain ⟨_, hadd, _⟩ := bind_eq_ok hroots
  have hinv := rootsOf_compileRoots (supports_valueAt hprocessed) hbefore
  exact hinv.same_of_add hadd hbase howner

/-- **The documents are accepted just if nothing in them is wrong.** -/
theorem accepted_iff (hd : ∀ document ∈ documents, document.Distinct) :
    (∃ bundle, ofDocuments documents = .ok bundle) ↔
      (∀ document ∈ documents, ∃ base, documentBase .anonymous document = .ok base) ∧
        EqualsKept documents ∧
        (∀ here v, ReachedAt documents here v → v.formed here.base = true) ∧
        ∀ target, Referenced documents target → ∃ v, valueAt documents target = some v := by
  constructor
  · intro ⟨bundle, hbundle⟩
    obtain ⟨arena, hlinking, hnil⟩ := linking_of_ofDocuments hbundle
    have hend := ended_of_linking (supports_reachable hd) (fun here v hv => hv.2) hlinking
    exact ⟨hend.based, equalsKept_of_linking hd hlinking, fun here v hv => hend.formed hv,
      hend.undefined_eq_nil.mp hnil⟩
  · intro ⟨hbase, hkept, hformed, hreferenced⟩
    obtain ⟨arena, hlinking⟩ := exists_linking hd hbase hkept hformed
    have hend := ended_of_linking (supports_reachable hd) (fun here v hv => hv.2) hlinking
    have hresult := ofDocuments_of_linking hlinking
    rwa [if_pos (hend.undefined_eq_nil.mpr hreferenced)] at hresult

/-- **The report of what is missing is exact.** If all schemas at places that are reached are
well-formed, and documents with the same base are equal, then the documents are accepted just if
every reference of these schemas leads to a value in a document. Otherwise the report has, once each
and in the order of the nodes that refer there first, the base of each document that is not at hand
and the key of each place that does not exist. -/
theorem ofDocuments_reports_missing (documents : List Value)
    (hd : ∀ document ∈ documents, document.Distinct)
    (hbase : ∀ document ∈ documents, ∃ base, documentBase .anonymous document = .ok base)
    (hone : OneForEach documents)
    (hformed : ∀ here v, ReachedAt documents here v → v.formed here.base = true) :
    ((∃ bundle, ofDocuments documents = .ok bundle) ↔
      ∀ target, Referenced documents target → ∃ v, valueAt documents target = some v) ∧
    ((¬ ∃ bundle, ofDocuments documents = .ok bundle) →
      ∃ uris arena, ofDocuments documents = .error (.unresolved uris) ∧
        linking documents = .ok arena ∧ uris.Nodup ∧
        (∀ u, u ∈ uris ↔ ∃ target, Referenced documents target ∧
          ((documentAt documents target.base = none ∧ u = target.base.text) ∨
            (documentAt documents target.base ≠ none ∧ valueAt documents target = none ∧
              u = target.key))) ∧
        (∀ u ∈ uris, ∃ node,
          arena.registry.get? (firstReferring documents arena.registry u) = some node ∧
            fault documents node = some u) ∧
        uris.Pairwise fun u u' =>
          firstReferring documents arena.registry u <
            firstReferring documents arena.registry u') := by
  obtain ⟨arena, hlinking⟩ := exists_linking hd hbase (hone.equalsKept hd) hformed
  have hend := ended_of_linking (supports_reachable hd) (fun here v hv => hv.2) hlinking
  have hresult := ofDocuments_of_linking hlinking
  by_cases hnil : arena.undefined = []
  · rw [if_pos hnil] at hresult
    exact ⟨iff_of_true hresult (hend.undefined_eq_nil.mp hnil), fun hno => absurd hresult hno⟩
  · rw [if_neg hnil] at hresult
    have hno : ¬ ∃ bundle, ofDocuments documents = .ok bundle := by
      rw [hresult]
      exact fun ⟨_, h⟩ => nomatch h
    refine ⟨iff_of_false hno fun hall => hnil (hend.undefined_eq_nil.mpr hall), fun _ => ?_⟩
    refine ⟨arena.undefined, arena, hresult, hlinking, ?_, fun u => ?_, fun u hu => ?_, ?_⟩
    · rw [hend.undefined]
      exact nodup_foldl_noting _ List.nodup_nil
    · rw [hend.mem_undefined, hend.mem_faults]
      simp only [absent_eq_some]
    · exact get?_firstReferring (hend.mem_undefined.mp hu)
    · rw [hend.undefined]
      exact pairwise_foldl_noting _ _

/-- A document with a schema that is not compiled with it, and leads to a document not at hand. -/
def leadingOut : Value :=
  .object [("$id", .string "urn:b"), ("x", .object [("$ref", .string "urn:gone:2")])]

/-- A document that refers to that schema, and to another document not at hand. -/
def leadingOn : Value :=
  .object [("$id", .string "urn:a"), ("allOf", .array [
    .object [("$ref", .string "urn:b#/x")], .object [("$ref", .string "urn:gone:1")]])]

theorem ofDocuments_reports_missing_later :
    ofDocuments [leadingOut, leadingOn] = .error (.unresolved ["urn:gone:1", "urn:gone:2"]) ∧
    ∀ u, u ∈ ["urn:gone:1", "urn:gone:2"] ↔
      ∃ target, Referenced [leadingOut, leadingOn] target ∧
        ((documentAt [leadingOut, leadingOn] target.base = none ∧ u = target.base.text) ∨
          (documentAt [leadingOut, leadingOn] target.base ≠ none ∧
            valueAt [leadingOut, leadingOn] target = none ∧ u = target.key)) := by
  have hd : ∀ document ∈ [leadingOut, leadingOn], document.Distinct := by
    simp [leadingOut, leadingOn, Members.Distinct, Value.Distinct, Value.DistinctItems,
      Value.DistinctMembers]
  have hbase : ∀ document ∈ [leadingOut, leadingOn], ∃ base,
      documentBase .anonymous document = .ok base := by
    have hok : ∀ document ∈ [leadingOut, leadingOn],
        (documentBase .anonymous document).isOk = true := by decide +kernel
    intro document hmem
    have hok := hok document hmem
    cases hb : documentBase .anonymous document with
    | ok base => exact ⟨base, rfl⟩
    | error e => rw [hb] at hok; cases hok
  have hone : OneForEach [leadingOut, leadingOn] := by
    have hbases : (documentBase .anonymous leadingOut).toOption.map BaseUri.text ≠
        (documentBase .anonymous leadingOn).toOption.map BaseUri.text := by decide +kernel
    exact (apart_pair hbases).oneForEach
  have hreport : ofDocuments [leadingOut, leadingOn] =
      .error (.unresolved ["urn:gone:1", "urn:gone:2"]) := by
    have herror : (ofDocuments [leadingOut, leadingOn]).map (fun _ => ()) =
        .error (.unresolved ["urn:gone:1", "urn:gone:2"]) := by
      decide +kernel
    cases h : ofDocuments [leadingOut, leadingOn] with
    | ok bundle => rw [h] at herror; cases herror
    | error e => rw [h] at herror; cases herror; rfl
  -- linking has come to an end, so all schemas that it met are well-formed
  have hformed : ∀ here v, ReachedAt [leadingOut, leadingOn] here v →
      v.formed here.base = true := by
    have hended : (linking [leadingOut, leadingOn]).isOk = true := by decide +kernel
    intro here v hv
    cases h : linking [leadingOut, leadingOn] with
    | ok arena =>
        exact (ended_of_linking (supports_reachable hd) (fun here v hv => hv.2) h).formed hv
    | error e => rw [h] at hended; cases hended
  have hno : ¬ ∃ bundle, ofDocuments [leadingOut, leadingOn] = .ok bundle := by
    rw [hreport]
    rintro ⟨bundle, h⟩
    cases h
  obtain ⟨uris, _, herror, _, _, hmem, _⟩ :=
    (ofDocuments_reports_missing [leadingOut, leadingOn] hd hbase hone hformed).2 hno
  rw [hreport] at herror
  cases herror
  exact ⟨hreport, hmem⟩

end Bundle

end JsonSchema
