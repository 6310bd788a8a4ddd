import JsonSchema.Proofs.Direct.Again
import JsonSchema.Validator

/-!
# Supplying a document again

A document that equals one which has been compiled is compiled without an error, whatever else the
registry holds, and nothing changes. So a document may be repeated in the list of documents,
anywhere after the first one with its base, with its members in another order and its numbers in
another form: the list is accepted as before, and all schemas answer as before.
-/

namespace JsonSchema

open Compile Direct

/-- A document that is present is compiled again, and nothing is added. -/
theorem compileRoot_of_present {r : Registry} {document : Value} {base : BaseUri}
    (hbase : documentBase .anonymous document = .ok base)
    (h : Present r { base, pointer := .root } document) (hd : document.Distinct) :
    ∃ i, r.lookup base.text = some i ∧
      (compileRoot document).run r = (.ok { base, index := i }, r) := by
  obtain ⟨i, hi, hrun⟩ := run_of_present h hd (Nat.le_refl _)
  refine ⟨i, hi, ?_⟩
  rw [run_compileRoot, hbase]
  dsimp only
  rw [hrun]

/-- **What equals a document that has just been compiled is compiled to the same root.** -/
theorem compileRoot_again {document copy : Value} (hd : document.Distinct) (hd' : copy.Distinct)
    (hsame : document.same copy = true) {r r' : Registry} {root : Root}
    (h : (compileRoot document).run r = (.ok root, r')) :
    (compileRoot copy).run r' = (.ok root, r') := by
  obtain ⟨hbase, hwithin⟩ := compileRoot_eq_ok h
  have hleaves := within_leaves document.height { base := root.base, pointer := .root } document r
  rw [hwithin] at hleaves
  obtain ⟨hpresent, hfound⟩ := hleaves.present root.index rfl
  rw [documentBase_of_same hsame hd] at hbase
  obtain ⟨i, hi, hrun⟩ := compileRoot_of_present hbase (hpresent.same hsame hd hd') hd'
  -- the node that is there is the one of the document
  have hindex : some root.index = some i := hfound.symm.trans hi
  cases hindex
  exact hrun

namespace Bundle

variable {before after : List Value} {document copy : Value}

/-- Apart from the roots the same documents have been compiled. -/
structure Roots.Agrees (s t : Roots) : Prop where
  registry : s.registry = t.registry
  documents : s.documents = t.documents

/-- What is compiled next does not depend on the roots. -/
theorem Roots.Agrees.add {s s' t : Roots} (h : s.Agrees t) (hadd : s.add document = .ok s') :
    ∃ t', t.add document = .ok t' ∧ s'.Agrees t' := by
  obtain ⟨registry, roots, documents⟩ := s
  obtain ⟨registry', roots', documents'⟩ := t
  obtain ⟨rfl, rfl⟩ := h
  unfold Roots.add at hadd ⊢
  dsimp only at hadd ⊢
  rcases hrun : (compileRoot document).run registry with ⟨answer, r⟩
  rw [hrun] at hadd
  cases answer with
  | error e => exact nomatch hadd
  | ok root =>
      dsimp only at hadd ⊢
      cases howner : documents.get? root.base.text with
      | none =>
          rw [howner] at hadd
          cases hadd
          exact ⟨_, rfl, rfl, rfl⟩
      | some owner =>
          rw [howner] at hadd
          dsimp only at hadd ⊢
          split at hadd
          · rename_i hsame
            cases hadd
            rw [if_pos hsame]
            exact ⟨_, rfl, rfl, rfl⟩
          · exact nomatch hadd

theorem Roots.Agrees.foldlM {s s' t : Roots} (h : s.Agrees t) {documents : List Value}
    (hfold : documents.foldlM Roots.add s = .ok s') :
    ∃ t', documents.foldlM Roots.add t = .ok t' ∧ s'.Agrees t' := by
  induction documents generalizing s t with
  | nil =>
      cases hfold
      exact ⟨t, rfl, h⟩
  | cons document rest ih =>
      rw [List.foldlM_cons] at hfold
      obtain ⟨s₁, hadd, hrest⟩ := bind_eq_ok hfold
      obtain ⟨t₁, hadd', hagrees⟩ := h.add hadd
      obtain ⟨t', hrest', hagrees'⟩ := ih hagrees hrest
      refine ⟨t', ?_, hagrees'⟩
      rw [List.foldlM_cons, hadd']
      exact hrest'

/-- What equals the document that is kept for its base adds nothing but a root. -/
theorem add_again {s : Roots} (hd : ∀ document ∈ before, document.Distinct)
    (hinv : RootsOf (StandsAt before) before s) {base : BaseUri}
    (howner : documentAt before base = some document) (hd' : copy.Distinct)
    (hsame : document.same copy = true) : ∃ s', s.add copy = .ok s' ∧ s.Agrees s' := by
  have hmem := hd _ (mem_of_documentAt howner).1
  have hbase := (mem_of_documentAt howner).2
  have hpresent := present_of_isSome hd hinv.faithful (valueAt_root howner)
    (hinv.root_isSome howner)
  rw [documentBase_of_same hsame hmem] at hbase
  obtain ⟨i, _, hrun⟩ := compileRoot_of_present hbase (hpresent.same hsame hmem hd') hd'
  unfold Roots.add
  rw [hrun]
  dsimp only
  rw [hinv.owner, howner]
  dsimp only
  rw [if_pos hsame]
  exact ⟨_, rfl, rfl, rfl⟩

/-- **A list in which a document is repeated compiles to the same registry.** -/
theorem compileRoots_again (hd : ∀ document ∈ before, document.Distinct) {base : BaseUri}
    (howner : documentAt before base = some document) (hd' : copy.Distinct)
    (hsame : document.same copy = true) {s : Roots} (h : compileRoots (before ++ after) = .ok s) :
    ∃ t, compileRoots (before ++ copy :: after) = .ok t ∧ s.Agrees t := by
  unfold compileRoots at h ⊢
  rw [List.foldlM_append] at h
  obtain ⟨s₁, hbefore, hafter⟩ := bind_eq_ok h
  have hinv := rootsOf_compileRoots (supports_valueAt hd) hbefore
  obtain ⟨s₂, hadd, hagrees⟩ := add_again hd hinv howner hd' hsame
  obtain ⟨t, hfold, hagrees'⟩ := hagrees.foldlM hafter
  refine ⟨t, ?_, hagrees'⟩
  rw [List.foldlM_append, hbefore]
  show (copy :: after).foldlM Roots.add s₁ = .ok t
  rw [List.foldlM_cons, hadd]
  exact hfold

/-- Linking does not look at the roots. -/
theorem ofDocuments_of_agrees {documents documents' : List Value}
    (h : ∀ s, compileRoots documents = .ok s → ∃ t, compileRoots documents' = .ok t ∧ s.Agrees t)
    {bundle : Bundle} (hbundle : ofDocuments documents = .ok bundle) :
    ∃ bundle', ofDocuments documents' = .ok bundle' ∧ bundle'.registry = bundle.registry := by
  unfold ofDocuments at hbundle ⊢
  obtain ⟨s, hroots, hbundle⟩ := bind_eq_ok hbundle
  obtain ⟨linked, hpasses, hbundle⟩ := bind_eq_ok hbundle
  obtain ⟨t, hroots', hagrees⟩ := h s hroots
  rw [hagrees.registry, hagrees.documents] at hpasses
  rw [hroots']
  simp only [Bind.bind, Except.bind, hpasses]
  split at hbundle
  · rename_i hnone
    cases hbundle
    rw [if_pos hnone]
    exact ⟨_, rfl, rfl⟩
  · exact nomatch hbundle

end Bundle

/-- **Supplying a document again is harmless.** What equals a document that has been compiled
compiles to the same root and leaves the registry as it is, whatever the registry holds. And a list
of documents in which it is repeated is accepted if the list without it is, with the same registry
and the same answers. -/
theorem repetition_harmless (document copy : Value) (hd : document.Distinct) (hd' : copy.Distinct)
    (hsame : document.same copy = true) :
    (∀ r r' root, (compileRoot document).run r = (.ok root, r') →
      (compileRoot copy).run r' = (.ok root, r')) ∧
    ∀ before after base config validator, (∀ other ∈ before, other.Distinct) →
      documentAt before base = some document →
      Validator.ofDocuments (before ++ after) config = .ok validator →
      ∃ validator', Validator.ofDocuments (before ++ copy :: after) config = .ok validator' ∧
        validator'.bundle.registry = validator.bundle.registry ∧
        ∀ selector v, validator'.validateAt selector v = validator.validateAt selector v := by
  refine ⟨fun r r' root h => compileRoot_again hd hd' hsame h, ?_⟩
  intro before after base config validator hbefore howner h
  obtain ⟨bundle, hbundle, hvalidator⟩ := bind_eq_ok h
  cases hvalidator
  obtain ⟨bundle', hbundle', hregistry⟩ := Bundle.ofDocuments_of_agrees
    (fun s => Bundle.compileRoots_again hbefore howner hd' hsame) hbundle
  refine ⟨{ bundle := bundle', config }, ?_, hregistry, fun selector v => ?_⟩
  · unfold Validator.ofDocuments
    rw [hbundle']
    rfl
  · unfold Validator.validateAt Validator.runAt
    rw [hregistry]

/-- A document with two members. -/
def lettered : Value :=
  .object [("$id", .string "http://host/a"), ("properties", .object [("x", .object
    [("maxLength", .number (.integer 3)), ("type", .string "string")])])]

/-- The same document, with all members in another order and the number in another form. -/
def letteredAgain : Value :=
  .object [("properties", .object [("x", .object [("type", .string "string"),
    ("maxLength", .number (.float (.ofNat false 3 (by decide))))])]),
    ("$id", .string "http://host/a")]

theorem repetition_harmless_reordered :
    lettered.Distinct ∧ letteredAgain.Distinct ∧ lettered.same letteredAgain = true ∧
    (∃ root r', (compileRoot lettered).run .empty = (.ok root, r') ∧ r'.size = 2 ∧
      (compileRoot letteredAgain).run r' = (.ok root, r')) ∧
    ∃ validator validator', Validator.ofDocuments [lettered, .bool true] {} = .ok validator ∧
      Validator.ofDocuments [lettered, letteredAgain, .bool true] {} = .ok validator' ∧
      validator'.bundle.registry = validator.bundle.registry ∧
      ∀ v, validator'.validateAt "http://host/a" v = validator.validateAt "http://host/a" v := by
  have hd : lettered.Distinct := by
    simp [lettered, Value.Distinct, Value.DistinctMembers, Members.Distinct]
  have hd' : letteredAgain.Distinct := by
    simp [letteredAgain, Value.Distinct, Value.DistinctMembers, Members.Distinct]
  have hsame : lettered.same letteredAgain = true := by decide +kernel
  obtain ⟨hroot, hlist⟩ := repetition_harmless lettered letteredAgain hd hd' hsame
  have hsize : ((compileRoot lettered).run .empty).1.isOk = true ∧
      ((compileRoot lettered).run .empty).2.size = 2 := by decide +kernel
  rcases hrun : (compileRoot lettered).run .empty with ⟨answer, r'⟩
  rw [hrun] at hsize
  dsimp only at hsize
  obtain ⟨root, rfl⟩ := exists_of_isOk hsize.1
  have hvalid : (Validator.ofDocuments [lettered, .bool true] {}).isOk = true := by decide +kernel
  obtain ⟨validator, hvalidator⟩ := exists_of_isOk hvalid
  have hdocument : documentAt [lettered] root.base = some lettered :=
    Bundle.documentAt_cons (compileRoot_eq_ok hrun).1
  have hothers : ∀ other ∈ [lettered], other.Distinct := by
    intro other hmem
    rw [List.mem_singleton.mp hmem]
    exact hd
  obtain ⟨validator', hvalidator', hregistry, hanswers⟩ :=
    hlist [lettered] [.bool true] root.base {} validator hothers hdocument hvalidator
  exact ⟨hd, hd', hsame, ⟨root, r', rfl, hsize.2, hroot _ _ _ hrun⟩, validator, validator',
    hvalidator, hvalidator', hregistry, hanswers _⟩

end JsonSchema
