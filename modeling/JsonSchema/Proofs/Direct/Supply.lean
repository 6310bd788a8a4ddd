import JsonSchema.Proofs.Direct.Refinement
import JsonSchema.Proofs.Direct.Report
import Mathlib.Data.List.Pairwise

/-!
# Supplying more documents, in another order

If no two documents have the same base, a document is found under its base wherever it stands in the
list. So what is found in some documents is found in every list that has them all, and a schema at a
place has the same meaning there. Nodes may have other indices, and there may be more of them.
-/

namespace JsonSchema

open Compile Direct

namespace Direct

variable {documents documents' : List Value}

/-- A document is found under its base. -/
theorem documentAt_of_apart (h : Apart documents) {document : Value} (hmem : document ∈ documents)
    {base : BaseUri} (hbase : documentBase .anonymous document = .ok base) :
    documentAt documents base = some document := by
  obtain ⟨owner, howner⟩ := exists_documentAt hmem hbase
  obtain ⟨hmem', hbase'⟩ := mem_of_documentAt howner
  have hsymm : Std.Symm fun d d' : Value => ∀ base, documentBase .anonymous d = .ok base →
      documentBase .anonymous d' ≠ .ok base :=
    ⟨fun d d' hne base hd' hd => hne base hd hd'⟩
  by_cases heq : owner = document
  · rw [← heq]
    exact howner
  · exact absurd hbase (List.Pairwise.forall h hmem' hmem heq base hbase')

variable (hapart : Apart documents') (hsub : ∀ document ∈ documents, document ∈ documents')
include hapart hsub

theorem documentAt_of_subset {base : BaseUri} {document : Value}
    (h : documentAt documents base = some document) :
    documentAt documents' base = some document := by
  obtain ⟨hmem, hbase⟩ := mem_of_documentAt h
  exact documentAt_of_apart hapart (hsub _ hmem) hbase

theorem valueAt_of_subset {place : Target} {v : Value} (h : valueAt documents place = some v) :
    valueAt documents' place = some v := by
  obtain ⟨document, hdocument, hwalk⟩ := Option.bind_eq_some_iff.mp h
  unfold valueAt
  rw [documentAt_of_subset hapart hsub hdocument]
  exact hwalk

theorem Reachable.of_subset {here : Target} (h : Reachable documents here) :
    Reachable documents' here := by
  induction h with
  | root hmem hbase => exact .root (hsub _ hmem) hbase
  | inside _ hv hp ih => exact .inside ih (valueAt_of_subset hapart hsub hv) hp
  | target _ hv hrefers hvalue ih =>
      have hv := valueAt_of_subset hapart hsub hv
      exact .target ih hv hrefers (valueAt_of_subset hapart hsub hvalue)

end Direct

/-! ## Another order -/

/-- What is referred to from documents is referred to from more documents. -/
theorem Bundle.Referenced.of_subset {documents documents' : List Value} (hapart : Apart documents')
    (hsub : ∀ document ∈ documents, document ∈ documents') {target : Target}
    (h : Bundle.Referenced documents target) : Bundle.Referenced documents' target := by
  obtain ⟨here, members, ⟨hreach, hv⟩, hrefers⟩ := h
  exact ⟨here, members, ⟨hreach.of_subset hapart hsub, valueAt_of_subset hapart hsub hv⟩, hrefers⟩

/-- Documents that are accepted are accepted in another order. -/
theorem accepted_of_perm {documents documents' : List Value}
    (hd : ∀ document ∈ documents, document.Distinct) (hapart : Apart documents)
    (hapart' : Apart documents') (hperm : documents.Perm documents')
    (h : ∃ bundle, Bundle.ofDocuments documents = .ok bundle) :
    ∃ bundle, Bundle.ofDocuments documents' = .ok bundle := by
  have hsub : ∀ document ∈ documents, document ∈ documents' := fun _ => hperm.mem_iff.mp
  have hsub' : ∀ document ∈ documents', document ∈ documents := fun _ => hperm.mem_iff.mpr
  have hd' : ∀ document ∈ documents', document.Distinct := fun _ hmem => hd _ (hsub' _ hmem)
  obtain ⟨hbase, _, hformed, hreferenced⟩ := (Bundle.accepted_iff hd).mp h
  refine (Bundle.accepted_iff hd').mpr ⟨fun document hmem => ?_,
    hapart'.oneForEach.equalsKept hd', fun here v hv => ?_, fun target ht => ?_⟩
  · exact hbase document (hsub' _ hmem)
  · exact hformed here v ⟨hv.1.of_subset hapart hsub', valueAt_of_subset hapart hsub' hv.2⟩
  · obtain ⟨v, hv⟩ := hreferenced target (Bundle.Referenced.of_subset hapart hsub' ht)
    exact ⟨v, valueAt_of_subset hapart' hsub hv⟩

/-! ## More documents -/

/-- A place with a node is reached. -/
theorem Registry.Faithful.reachable {documents : List Value} {r : Registry}
    (hf : r.Faithful (ReachedAt documents)) {here : Target}
    (h : (r.lookup here.key).isSome = true) : Reachable documents here := by
  obtain ⟨i, hi⟩ := Option.isSome_iff_exists.mp h
  obtain ⟨node, hnode, huri⟩ := hf.coherent _ _ hi
  obtain ⟨there, v, hthere, hv, _⟩ := hf.compiled hnode
  rw [← Target.key_injective (hthere.symm.trans huri)]
  exact hv.1

/-- **Neither the order in which documents are supplied matters nor which others there are.**
Documents are accepted in any order or in none, and a schema that is compiled for some documents
gives the same answers when there are more of them: the same violations in the same order, or the
same error. -/
theorem supply_irrelevant (documents documents' : List Value)
    (hd : ∀ document ∈ documents', document.Distinct) (hapart : Apart documents)
    (hapart' : Apart documents') (hsub : ∀ document ∈ documents, document ∈ documents') :
    (documents.Perm documents' → ((∃ bundle, Bundle.ofDocuments documents = .ok bundle) ↔
      ∃ bundle, Bundle.ofDocuments documents' = .ok bundle)) ∧
    ∀ config validator validator', Validator.ofDocuments documents config = .ok validator →
      Validator.ofDocuments documents' config = .ok validator' →
      ∀ selector target, Target.ofSelector selector = .ok target →
        (validator.bundle.registry.lookup target.key).isSome = true →
        ∀ v, validator.validateAt selector v = validator'.validateAt selector v := by
  have hd₀ : ∀ document ∈ documents, document.Distinct := fun _ hmem => hd _ (hsub _ hmem)
  refine ⟨fun hperm => ⟨accepted_of_perm hd₀ hapart hapart' hperm,
    accepted_of_perm hd hapart' hapart hperm.symm⟩, ?_⟩
  intro config validator validator' h h' selector target htarget hsome v
  obtain ⟨bundle, hbundle, hvalidator⟩ := bind_eq_ok h
  cases hvalidator
  obtain ⟨bundle', hbundle', hvalidator'⟩ := bind_eq_ok h'
  cases hvalidator'
  obtain ⟨hf, hl, _⟩ := Bundle.linked_of_ofDocuments (supports_reachable hd₀) hbundle
  obtain ⟨hf', hl', hroots'⟩ := Bundle.linked_of_ofDocuments (supports_valueAt hd) hbundle'
  -- both registries are faithful to what stands in the larger list
  have hfaithful : bundle.registry.Faithful (StandsAt documents') :=
    hf.mono fun here v hv => valueAt_of_subset hapart' hsub hv.2
  have hreach := (hf.reachable hsome).of_subset hapart' hsub
  have hsome' := Registry.isSome_of_reachable hf' (Registry.rooted_of_roots hroots')
    (Registry.bound_of_linked hf' hl') hreach
  obtain ⟨i, hi⟩ := Option.isSome_iff_exists.mp hsome
  obtain ⟨j, hj⟩ := Option.isSome_iff_exists.mp hsome'
  unfold Validator.validateAt
  rw [htarget]
  dsimp only at hi ⊢
  rw [hi, hj]
  -- so either answers what the direct interpreter of that list does
  exact (evaluate_eq_direct hfaithful hl hi _ v).trans (evaluate_eq_direct hf' hl' hj _ v).symm

theorem supply_irrelevant_onDemand :
    (∃ bundle, Bundle.ofDocuments [referring, referredTo] = .ok bundle) ∧
    ∃ validator validator', Validator.ofDocuments [referredTo] {} = .ok validator ∧
      Validator.ofDocuments [referring, referredTo] {} = .ok validator' ∧
      validator.bundle.registry.size = 1 ∧ validator'.bundle.registry.size = 4 ∧
      ∀ v, validator.validateAt "http://host/a" v = validator'.validateAt "http://host/a" v := by
  have hd : ∀ document ∈ [referring, referredTo], document.Distinct := by
    simp [referredTo, referring, Members.Distinct, Value.Distinct, Value.DistinctMembers]
  have hbases : (documentBase .anonymous referring).toOption.map BaseUri.text ≠
      (documentBase .anonymous referredTo).toOption.map BaseUri.text := by decide +kernel
  have hboth := apart_pair hbases
  have hone : Apart [referredTo] := List.pairwise_singleton _ _
  have hsub : ∀ document ∈ [referredTo], document ∈ [referring, referredTo] :=
    fun _ hmem => List.mem_cons_of_mem _ hmem
  have hswap := supply_irrelevant [referredTo, referring] [referring, referredTo] hd
    (apart_pair hbases.symm) hboth fun _ hmem =>
      (List.Perm.swap referring referredTo []).mem_iff.mp hmem
  have hanswers := (supply_irrelevant [referredTo] [referring, referredTo] hd hone hboth hsub).2
  have hsize : (Validator.ofDocuments [referredTo] {}).toOption.map
      (fun validator => (validator.bundle.registry.size,
        validator.bundle.registry.lookup "http://host/a")) = some (1, some 0) := by
    decide +kernel
  have hsize' : (Validator.ofDocuments [referring, referredTo] {}).toOption.map
      (fun validator => validator.bundle.registry.size) = some 4 := by
    decide +kernel
  have hswapped : (Bundle.ofDocuments [referredTo, referring]).isOk = true := by decide +kernel
  have htarget : ∃ target, Target.ofSelector "http://host/a" = .ok target ∧
      target.key = "http://host/a" := by
    have hkey : (Target.ofSelector "http://host/a").toOption.map Target.key =
        some "http://host/a" := by decide +kernel
    cases h : Target.ofSelector "http://host/a" with
    | ok target => rw [h] at hkey; exact ⟨target, rfl, Option.some.inj hkey⟩
    | error e => rw [h] at hkey; cases hkey
  obtain ⟨target, hselector, hkey⟩ := htarget
  refine ⟨(hswap.1 (List.Perm.swap _ _ _)).mp ?_, ?_⟩
  · cases h : Bundle.ofDocuments [referredTo, referring] with
    | ok bundle => exact ⟨bundle, rfl⟩
    | error e => rw [h] at hswapped; cases hswapped
  · cases h : Validator.ofDocuments [referredTo] {} with
    | error e => rw [h] at hsize; cases hsize
    | ok validator =>
        cases h' : Validator.ofDocuments [referring, referredTo] {} with
        | error e => rw [h'] at hsize'; cases hsize'
        | ok validator' =>
            rw [h] at hsize
            rw [h'] at hsize'
            obtain ⟨hone, hlookup⟩ := Prod.mk.inj (Option.some.inj hsize)
            refine ⟨validator, validator', rfl, rfl, hone, Option.some.inj hsize', ?_⟩
            refine hanswers {} validator validator' h h' _ target hselector ?_
            rw [hkey, hlookup]
            rfl

end JsonSchema
