import JsonSchema.Proofs.Direct.Contents
import JsonSchema.Proofs.Direct.Presentation
import JsonSchema.Proofs.Direct.Report
import Mathlib.Order.Interval.Set.Nat

/-!
# The presentation of schemas does not matter

The order of the members of a schema decides in which order the schemas inside it are compiled: what
index a node has, in which pass a reference is bound, and in which order patterns and dependencies
are evaluated. None of this decides which places are reached, so restated documents are accepted
together, and have as many nodes. The violations that are found are the same, in some order.
-/

namespace JsonSchema

open Compile Direct Value

namespace Direct

variable {documents documents' : List Value}

/-! ## The places that are reached -/

/-- A restated schema has schemas inside at the same places. -/
theorem exists_inside_of_restates {members members' : Members Value}
    (h : (Value.object members).Restates (.object members')) {p : List String × Value}
    (hp : p ∈ Subschemas.inside members) : ∃ w, (p.1, w) ∈ Subschemas.inside members' := by
  have hback := h.symm
  obtain ⟨w, hw, _⟩ := Subschemas.matched_inside
    (Subschemas.equals_of_same hback.distinct hback.same) hback.distinct h.distinct p hp
  exact ⟨w, hw⟩

/-- And refers to the same target. -/
theorem RefersTo.of_restates {base : BaseUri} {members members' : Members Value} {target : Target}
    (hm : RestatesMembers members members') (h : RefersTo base members target) :
    RefersTo base members' target := by
  obtain ⟨text, htext, hresolve⟩ := h
  refine ⟨text, ?_, hresolve⟩
  have hget := hm "$ref"
  rw [htext] at hget
  generalize members'.get? "$ref" = o at hget
  cases hget with
  | some hvw =>
      cases hvw.alike
      rfl

/-- **In restated documents the same places are reached.** -/
theorem Reachable.of_restates (h : RestatesAll documents documents') {here : Target}
    (hhere : Reachable documents here) : Reachable documents' here := by
  induction hhere with
  | root hmem hbase =>
      obtain ⟨document', hmem', hd⟩ := Shuffled.exists_right (.of_forall₂ h) hmem
      rw [documentBase_of_same hd.same hd.distinct] at hbase
      exact .root hmem' hbase
  | inside _ hv hp ih =>
      obtain ⟨members', hv', hs⟩ := h.exists_membersAt hv
      obtain ⟨w, hw⟩ := exists_inside_of_restates hs hp
      exact .inside (p := (_, w)) ih hv' hw
  | target _ hv hrefers hvalue ih =>
      obtain ⟨members', hv', hs⟩ := h.exists_membersAt hv
      obtain ⟨w, hw, _⟩ := h.exists_valueAt hvalue
      exact .target ih hv' (hrefers.of_restates (restatesMembers_of_object hs)) hw

theorem reachable_restates (h : RestatesAll documents documents') (here : Target) :
    Reachable documents here ↔ Reachable documents' here :=
  ⟨.of_restates h, .of_restates h.symm⟩

end Direct

/-! ## Restated documents are accepted together -/

namespace Bundle

variable {documents documents' : List Value}

theorem Referenced.of_restates (h : RestatesAll documents documents') {target : Target}
    (ht : Referenced documents target) : Referenced documents' target := by
  obtain ⟨here, members, ⟨hreach, hv⟩, hrefers⟩ := ht
  obtain ⟨members', hv', hs⟩ := h.exists_membersAt hv
  exact ⟨here, members', ⟨hreach.of_restates h, hv'⟩,
    hrefers.of_restates (restatesMembers_of_object hs)⟩

/-- Restated documents equal those that are kept if the documents do. -/
theorem equalsKept_of_restates (h : RestatesAll documents documents')
    (hkept : EqualsKept documents) : EqualsKept documents' := by
  intro document' hmem' base owner' hbase' howner'
  obtain ⟨document, hmem, hd⟩ := Shuffled.exists_left (.of_forall₂ h) hmem'
  have howner := documentAt_restates h base
  rw [howner'] at howner
  generalize hfound : documentAt documents base = o at howner
  cases howner with
  | @some owner _ ho =>
      rw [← documentBase_of_same hd.same hd.distinct] at hbase'
      rw [← ho.alike.same_congr hd.alike hd.distinct]
      exact hkept document hmem hbase' hfound

theorem accepted_of_restates (h : RestatesAll documents documents')
    (haccepted : ∃ bundle, ofDocuments documents = .ok bundle) :
    ∃ bundle, ofDocuments documents' = .ok bundle := by
  have hback := h.symm
  obtain ⟨hbase, hkept, hformed, hreferenced⟩ := (accepted_iff h.distinct).mp haccepted
  refine (accepted_iff hback.distinct).mpr ⟨fun document' hmem' => ?_,
    equalsKept_of_restates h hkept, fun here w hw => ?_, fun target ht => ?_⟩
  · obtain ⟨document, hmem, hd⟩ := Shuffled.exists_left (.of_forall₂ h) hmem'
    rw [← documentBase_of_same hd.same hd.distinct]
    exact hbase document hmem
  · obtain ⟨v, hv, hwv⟩ := hback.exists_valueAt hw.2
    have hreach : ReachedAt documents here v := ⟨hw.1.of_restates hback, hv⟩
    exact formed_of_same hwv.symm.same hwv.symm.distinct hwv.distinct (hformed here v hreach)
  · obtain ⟨v, hv⟩ := hreferenced target (ht.of_restates hback)
    obtain ⟨w, hw, _⟩ := h.exists_valueAt hv
    exact ⟨w, hw⟩

/-- There are as many nodes as places that are reached. -/
theorem size_eq_ncard (hd : ∀ document ∈ documents, document.Distinct) {bundle : Bundle}
    (h : ofDocuments documents = .ok bundle) :
    bundle.registry.size = {here | Reachable documents here}.ncard := by
  obtain ⟨hf, hl, hroots⟩ := linked_of_ofDocuments (supports_reachable hd) h
  obtain ⟨place, hbij, _⟩ := exists_places hf (Registry.rooted_of_roots hroots)
    (Registry.bound_of_linked hf hl)
  rw [← hbij.image_eq, hbij.injOn.ncard_image]
  exact (Set.ncard_Iio_nat bundle.registry.size).symm

/-- The documents of restated lists have the same bases, one by one. -/
theorem rootUris_of_restates (h : RestatesAll documents documents') {bundle bundle' : Bundle}
    (hbundle : ofDocuments documents = .ok bundle)
    (hbundle' : ofDocuments documents' = .ok bundle') :
    bundle.roots.map (·.base.text) = bundle'.roots.map (·.base.text) := by
  obtain ⟨_, _, hroots⟩ := linked_of_ofDocuments (supports_valueAt h.distinct) hbundle
  obtain ⟨_, _, hroots'⟩ := linked_of_ofDocuments (supports_valueAt h.symm.distinct) hbundle'
  have hbases : List.Forall₂ (fun root root' : Root => root.base.text = root'.base.text)
      bundle.roots bundle'.roots := by
    refine forall₂_square h hroots hroots' fun {d d' root root'} hd hroot hroot' => ?_
    have hbase : documentBase .anonymous d = documentBase .anonymous d' :=
      documentBase_of_same hd.same hd.distinct
    rw [hroot.1, hroot'.1] at hbase
    rw [Except.ok.inj hbase]
  rw [← List.forall₂_eq_eq_eq, List.forall₂_map_left_iff, List.forall₂_map_right_iff]
  exact hbases

end Bundle

/-! ## Validators -/

/-- **How schemas are presented does not matter.** The members of their objects may be reordered at
any depth, and whole numbers below `2 ^ 53` in size may be written as integers or as binary64
numbers. Documents are then accepted together, with as many nodes and the same URIs. If there is no
limit on violations and both evaluations succeed, they find the same violations in an instance, each
as often, with every schema and within any limit on frames. -/
theorem schema_presentation_irrelevant (documents documents' : List Value)
    (hd : ∀ document ∈ documents, document.Distinct)
    (halike : List.Forall₂ Alike documents documents') :
    ((∃ bundle, Bundle.ofDocuments documents = .ok bundle) ↔
      ∃ bundle, Bundle.ofDocuments documents' = .ok bundle) ∧
    (∀ bundle bundle', Bundle.ofDocuments documents = .ok bundle →
      Bundle.ofDocuments documents' = .ok bundle' →
      bundle.registry.size = bundle'.registry.size ∧
        bundle.roots.map (·.base.text) = bundle'.roots.map (·.base.text)) ∧
    ∀ config : Config, config.maxErrors = 0 → ∀ validator validator',
      Validator.ofDocuments documents config = .ok validator →
      Validator.ofDocuments documents' config = .ok validator' → ∀ v : Value, v.Distinct →
      (∀ es es', validator.validate v = .ok es → validator'.validate v = .ok es' →
        SameViolations es es') ∧
      ∀ selector es es', validator.validateAt selector v = .ok es →
        validator'.validateAt selector v = .ok es' → SameViolations es es' := by
  have h := restatesAll_of_alike hd halike
  refine ⟨⟨Bundle.accepted_of_restates h, Bundle.accepted_of_restates h.symm⟩,
    fun bundle bundle' hbundle hbundle' => ⟨?_, Bundle.rootUris_of_restates h hbundle hbundle'⟩,
    fun config hcap validator validator' hvalidator hvalidator' v hv => ?_⟩
  · -- either registry has a node for each place that is reached
    have hplaces : {here | Reachable documents here} = {here | Reachable documents' here} :=
      Set.ext fun here => reachable_restates h here
    rw [Bundle.size_eq_ncard hd hbundle, Bundle.size_eq_ncard h.symm.distinct hbundle', hplaces]
  · exact sameViolations_of_restates h hcap hvalidator hvalidator' ⟨.refl v, hv⟩

/-- A schema for objects with certain members. -/
def drafted : Value :=
  .object [("$id", .string "http://host/a"), ("dependencies", .object [
    ("x", .object [("maxProperties", .number (.integer 1))]), ("y", .bool false)])]

/-- The same schema in another presentation. -/
def draftedAgain : Value :=
  .object [("dependencies", .object [("y", .bool false),
    ("x", .object [("maxProperties", .number (.float (.ofNat false 1 (by decide))))])]),
    ("$id", .string "http://host/a")]

theorem schema_presentation_irrelevant_reordered :
    (∀ document ∈ [drafted], document.Distinct) ∧
    List.Forall₂ Alike [drafted] [draftedAgain] ∧
    (∃ bundle, Bundle.ofDocuments [draftedAgain] = .ok bundle) ∧
    ∃ validator validator' es es', Validator.ofDocuments [drafted] {} = .ok validator ∧
      Validator.ofDocuments [draftedAgain] {} = .ok validator' ∧
      validator.validate (.object [("x", .null), ("y", .null)]) = .ok es ∧
      validator'.validate (.object [("x", .null), ("y", .null)]) = .ok es' ∧
      es ≠ es' ∧ SameViolations es es' := by
  have hd : ∀ document ∈ [drafted], document.Distinct := by
    simp [drafted, Value.Distinct, Value.DistinctMembers, Members.Distinct]
  have hv : (Value.object [("x", .null), ("y", .null)]).Distinct := by
    simp [Value.Distinct, Value.DistinctMembers, Members.Distinct]
  have hone : (Number.integer 1).Alike (.float (.ofNat false 1 (by decide))) :=
    .inr ⟨1, by decide, rfl, by decide +kernel⟩
  have halike : List.Forall₂ Alike [drafted] [draftedAgain] := by
    refine .cons (alike_object ⟨_, List.Perm.swap _ _ _, .cons ⟨rfl, ?_⟩
      (.cons ⟨rfl, .refl _⟩ .nil)⟩) .nil
    refine alike_object ⟨_, List.Perm.swap _ _ _, .cons ⟨rfl, .refl _⟩ (.cons ⟨rfl, ?_⟩ .nil)⟩
    exact alike_object (.of_forall₂ (.cons ⟨rfl, .number hone⟩ .nil))
  obtain ⟨haccepted, _, hviolations⟩ :=
    schema_presentation_irrelevant [drafted] [draftedAgain] hd halike
  have hreport : (Validator.ofDocuments [drafted] {}).toOption.map
      (fun validator => validator.validate (.object [("x", .null), ("y", .null)])) =
      some (.ok [⟨⟨[]⟩, ⟨["dependencies", "x", "maxProperties"]⟩, "http://host/a"⟩,
        ⟨⟨[]⟩, ⟨["dependencies", "y"]⟩, "http://host/a"⟩]) := by
    decide +kernel
  have hreport' : (Validator.ofDocuments [draftedAgain] {}).toOption.map
      (fun validator => validator.validate (.object [("x", .null), ("y", .null)])) =
      some (.ok [⟨⟨[]⟩, ⟨["dependencies", "y"]⟩, "http://host/a"⟩,
        ⟨⟨[]⟩, ⟨["dependencies", "x", "maxProperties"]⟩, "http://host/a"⟩]) := by
    decide +kernel
  obtain ⟨validator, h, hes⟩ := exists_of_toOption_map hreport
  obtain ⟨validator', h', hes'⟩ := exists_of_toOption_map hreport'
  obtain ⟨bundle, hbundle, _⟩ := bind_eq_ok h
  refine ⟨hd, halike, haccepted.mp ⟨bundle, hbundle⟩, validator, validator', _, _, h, h', hes, hes',
    by decide, ?_⟩
  exact (hviolations {} rfl validator validator' h h' _ hv).1 _ _ hes hes'

end JsonSchema
