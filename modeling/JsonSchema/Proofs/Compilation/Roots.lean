import JsonSchema.Proofs.Compilation.Compiling
import JsonSchema.Proofs.Direct.Documents
import JsonSchema.Schema.Bundle

/-!
# Compiling the documents

The documents are compiled one after another. Afterwards the document that is kept for a URI is the
first one with this base, and each root has the index of the node that stands at the root of its
document.

A document may be given again. What its compilation does then is left to `Supports.again`, since it
is not the document that is kept.
-/

namespace JsonSchema

open Direct

namespace Compile

/-- The base that goes with a schema at a place. -/
def baseOf (here : Target) (v : Value) : Except SchemaError BaseUri :=
  if here.pointer.isRoot then documentBase here.base v else .ok here.base

theorem run_placed (here : Target) (v : Value) (r : Registry) :
    (placed here v).run r = match baseOf here v with
      | .error e => (.error e, r)
      | .ok base => match (within v.height { here with base } v).run r with
        | (.ok i, r') => (.ok (base, i), r')
        | (.error e, r') => (.error e, r') := by
  show ((liftExcept (baseOf here v) >>= fun base =>
    within v.height { here with base } v >>= fun i => pure (base, i)).run r) = _
  rw [run_bind]
  cases baseOf here v with
  | error e => rfl
  | ok base =>
      show ((within v.height { here with base } v >>= fun i => pure (base, i)).run r) = _
      rw [run_bind]
      dsimp only
      rcases (within v.height { here with base } v).run r with ⟨_ | _, r'⟩ <;> rfl

end Compile

open Compile

/-- A schema is compiled at its place in the document that has its base. -/
theorem run_compileAt {here : Target} {v : Value} {base : BaseUri} (h : baseOf here v = .ok base)
    (r : Registry) : (compileAt here v).run r = (within v.height { here with base } v).run r := by
  show ((placed here v >>= fun p => pure p.2).run r) = _
  rw [run_bind, run_placed, h]
  dsimp only
  rcases (within v.height { here with base } v).run r with ⟨_ | _, r'⟩ <;> rfl

theorem run_compileRoot (document : Value) (r : Registry) :
    (compileRoot document).run r = match documentBase .anonymous document with
      | .error e => (.error e, r)
      | .ok base => match (within document.height { base, pointer := .root } document).run r with
        | (.ok index, r') => (.ok { base, index }, r')
        | (.error e, r') => (.error e, r') := by
  show ((placed { base := .anonymous, pointer := .root } document >>= fun p =>
    pure ({ base := p.1, index := p.2 } : Root)).run r) = _
  have hbase : baseOf { base := .anonymous, pointer := .root } document =
    documentBase .anonymous document := rfl
  rw [run_bind, run_placed, hbase]
  cases documentBase .anonymous document with
  | error e => rfl
  | ok base =>
      dsimp only
      rcases (within document.height { base, pointer := .root } document).run r with ⟨_ | _, r'⟩ <;>
        rfl

theorem compileRoot_eq_ok {document : Value} {root : Root} {r r' : Registry}
    (h : (compileRoot document).run r = (.ok root, r')) :
    documentBase .anonymous document = .ok root.base ∧
      (within document.height { base := root.base, pointer := .root } document).run r =
        (.ok root.index, r') := by
  rw [run_compileRoot] at h
  cases hb : documentBase .anonymous document with
  | error e => rw [hb] at h; exact nomatch h
  | ok base =>
      rw [hb] at h
      dsimp only at h
      rcases hw : (within document.height { base, pointer := .root } document).run r with ⟨a, s⟩
      rw [hw] at h
      cases a with
      | error e => exact nomatch h
      | ok i => cases h; exact ⟨rfl, hw⟩

/-- What has to be known of the schemas in the documents. -/
structure Supports (documents : List Value) (stands : Target → Value → Prop) : Prop where
  /-- What is inside a schema stands below it. -/
  closed : ClosedInside stands
  /-- A document stands at its root. -/
  root : ∀ base document, documentAt documents base = some document →
    stands { base, pointer := .root } document
  /-- What a reference leads to stands there. -/
  target : ∀ {here members target v}, stands here (.object members) →
    RefersTo here.base members target → valueAt documents target = some v → stands target v
  /-- A document that has been compiled is compiled once more. -/
  again : ∀ {base owner document r}, documentAt documents base = some owner →
    owner.same document = true → document ∈ documents →
    documentBase .anonymous document = .ok base → r.Faithful stands →
    (r.lookup base.text).isSome = true →
    Compiled stands { base, pointer := .root } r
      ((within document.height { base, pointer := .root } document).run r)

/-- Nothing has to be known of the schemas for the registry to be linked. -/
theorem supports_true (documents : List Value) : Supports documents fun _ _ => True where
  closed _ _ _ _ _ := trivial
  root _ _ _ := trivial
  target _ _ _ := trivial
  again _ _ _ _ hf _ := Compile.within_keepsFaithful (fun _ _ _ _ _ => trivial) _ _ _ _ trivial hf

namespace Bundle

/-- What is known after some of the documents have been compiled. -/
structure RootsOf (stands : Target → Value → Prop) (processed : List Value) (s : Roots) : Prop where
  /-- Every node represents a schema. -/
  faithful : s.registry.Faithful stands
  /-- The document of a URI is the first one with this base. -/
  owner : ∀ base : BaseUri, s.documents.get? base.text = documentAt processed base
  /-- Each root has the index of the root of its document. -/
  roots : List.Forall₂ (fun document root => documentBase .anonymous document = .ok root.base ∧
    s.registry.lookup root.base.text = some root.index) processed s.roots

variable {stands : Target → Value → Prop} {documents processed rest : List Value}
  {document : Value}

theorem documentAt_append (documents documents' : List Value) (base : BaseUri) :
    documentAt (documents ++ documents') base =
      (documentAt documents base).or (documentAt documents' base) := List.find?_append

theorem documentAt_cons {base : BaseUri} (h : documentBase .anonymous document = .ok base) :
    documentAt (document :: rest) base = some document :=
  List.find?_cons_of_pos (hasBase_iff.mpr h)

theorem documentAt_singleton {own : BaseUri} (h : documentBase .anonymous document = .ok own)
    (base : BaseUri) : documentAt [document] base = if own = base then some document else none := by
  unfold documentAt
  rw [List.find?_singleton]
  by_cases hb : own = base
  · rw [if_pos hb, if_pos (hasBase_iff.mpr (hb ▸ h))]
  · rw [if_neg hb, if_neg]
    intro hbase
    rw [hasBase_iff.mp hbase] at h
    cases h
    exact hb rfl

/-- The root of a document that has been compiled has a node. -/
theorem RootsOf.root_isSome {s : Roots} (h : RootsOf stands processed s) {base : BaseUri}
    {owner : Value} (howner : documentAt processed base = some owner) :
    (s.registry.lookup base.text).isSome = true := by
  obtain ⟨hmem, hbase⟩ := mem_of_documentAt howner
  obtain ⟨i, hi, hget⟩ := List.getElem_of_mem hmem
  have hlength := h.roots.length_eq
  obtain ⟨hown, hfound⟩ := h.roots.get hi (hlength ▸ hi)
  rw [List.get_eq_getElem, hget, hbase] at hown
  cases hown
  rw [hfound]
  rfl

/-- The roots of the documents once one more has been compiled. -/
theorem RootsOf.roots_append {s : Roots} (hinv : RootsOf stands processed s) {root : Root}
    {registry : Registry} (hbase : documentBase .anonymous document = .ok root.base)
    (hc : Compiled stands { base := root.base, pointer := .root } s.registry
      (.ok root.index, registry)) :
    List.Forall₂ (fun document root => documentBase .anonymous document = .ok root.base ∧
      registry.lookup root.base.text = some root.index) (processed ++ [document])
      (s.roots ++ [root]) := by
  refine List.rel_append (hinv.roots.imp fun d o ⟨hd, ho⟩ => ⟨hd, hc.grows _ _ ho⟩) ?_
  exact .cons ⟨hbase, hc.found _ rfl⟩ .nil

/-- A document that is kept. If its base is not new, an earlier document still comes first. -/
theorem RootsOf.add_first {s : Roots} (hinv : RootsOf stands processed s) {root : Root}
    {registry : Registry} (hbase : documentBase .anonymous document = .ok root.base)
    (hc : Compiled stands { base := root.base, pointer := .root } s.registry
      (.ok root.index, registry)) :
    RootsOf stands (processed ++ [document])
      { registry, roots := s.roots ++ [root],
        documents := s.documents ++ [(root.base.text, document)] } := by
  refine ⟨hc.faithful, fun base => ?_, hinv.roots_append hbase hc⟩
  rw [documentAt_append, documentAt_singleton hbase, ← hinv.owner]
  show List.lookup base.text (s.documents ++ [(root.base.text, document)]) = _
  rw [List.lookup_append]
  refine congrArg _ ?_
  show Members.get? [(root.base.text, document)] base.text = _
  rw [Members.get?_cons]
  by_cases hb : root.base = base
  · rw [if_pos hb, if_pos (congrArg _ hb.symm)]
  · rw [if_neg hb, if_neg fun he => hb (BaseUri.text_injective he).symm]
    rfl

/-- A document with the base of an earlier one. -/
theorem RootsOf.add_again {s : Roots} (hinv : RootsOf stands processed s) {root : Root}
    {registry : Registry} (hbase : documentBase .anonymous document = .ok root.base)
    (hc : Compiled stands { base := root.base, pointer := .root } s.registry
      (.ok root.index, registry)) {owner : Value}
    (howner : documentAt processed root.base = some owner) :
    RootsOf stands (processed ++ [document]) { s with registry, roots := s.roots ++ [root] } := by
  refine ⟨hc.faithful, fun base => ?_, hinv.roots_append hbase hc⟩
  rw [documentAt_append, documentAt_singleton hbase, hinv.owner]
  by_cases hb : root.base = base
  · rw [← hb, howner]
    rfl
  · rw [if_neg hb, Option.or_none]

/-- A document that is added equals the one that is kept for its base. -/
theorem RootsOf.same_of_add {s s' : Roots} (hinv : RootsOf stands processed s)
    (h : s.add document = .ok s') {base : BaseUri}
    (hbase : documentBase .anonymous document = .ok base) {owner : Value}
    (howner : documentAt processed base = some owner) : owner.same document = true := by
  unfold Roots.add at h
  rcases hrun : (compileRoot document).run s.registry with ⟨answer, registry⟩
  rw [hrun] at h
  cases answer with
  | error e => exact nomatch h
  | ok root =>
      have hroot := (compileRoot_eq_ok hrun).1
      rw [hbase] at hroot
      dsimp only at h
      rw [← Except.ok.inj hroot, hinv.owner, howner] at h
      dsimp only at h
      split at h
      · assumption
      · exact nomatch h

/-- One more document. -/
theorem RootsOf.add (hs : Supports documents stands)
    (hsplit : documents = processed ++ document :: rest)
    {s s' : Roots} (hinv : RootsOf stands processed s) (h : s.add document = .ok s') :
    RootsOf stands (processed ++ [document]) s' := by
  unfold Roots.add at h
  rcases hrun : (compileRoot document).run s.registry with ⟨answer, registry⟩
  rw [hrun] at h
  cases answer with
  | error e => exact nomatch h
  | ok root =>
      dsimp only at h
      obtain ⟨hbase, hwithin⟩ := compileRoot_eq_ok hrun
      rw [hinv.owner] at h
      cases howner : documentAt processed root.base with
      | none =>
          rw [howner] at h
          cases h
          -- the document is the first one with its base, so its schemas stand where it is compiled
          have hfirst : documentAt documents root.base = some document := by
            rw [hsplit, documentAt_append, howner, documentAt_cons hbase]
            rfl
          have hc := within_keepsFaithful hs.closed document.height _ document s.registry
            (hs.root _ _ hfirst) hinv.faithful
          rw [hwithin] at hc
          exact hinv.add_first hbase hc
      | some owner =>
          rw [howner] at h
          dsimp only at h
          split at h
          · rename_i hsame
            cases h
            -- the document has been given before, so compiling it again adds no other nodes
            have howner' : documentAt documents root.base = some owner := by
              rw [hsplit, documentAt_append, howner]
              rfl
            have hmem : document ∈ documents := by
              rw [hsplit]
              exact List.mem_append_right _ List.mem_cons_self
            have hc := hs.again howner' hsame hmem hbase hinv.faithful (hinv.root_isSome howner)
            rw [hwithin] at hc
            exact hinv.add_again hbase hc howner
          · exact nomatch h

/-- **After all documents have been compiled**, what is known of each holds of all. -/
theorem rootsOf_compileRoots (hs : Supports documents stands) {s : Roots}
    (h : compileRoots documents = .ok s) : RootsOf stands documents s := by
  have hfold : ∀ (rest processed : List Value) (s₀ : Roots), documents = processed ++ rest →
      RootsOf stands processed s₀ → rest.foldlM Roots.add s₀ = .ok s →
        RootsOf stands documents s := by
    intro rest
    -- over the documents that are left, with all others processed
    induction rest with
    | nil =>
        intro processed s₀ hsplit hinv hok
        cases hok
        rw [List.append_nil] at hsplit
        rw [hsplit]
        exact hinv
    | cons document rest ih =>
        intro processed s₀ hsplit hinv hok
        rw [List.foldlM_cons] at hok
        obtain ⟨s₁, hadd, hok⟩ := bind_eq_ok hok
        exact ih (processed ++ [document]) s₁ (by rw [hsplit, List.append_assoc]; rfl)
          (hinv.add hs hsplit hadd) hok
  exact hfold documents [] _ rfl ⟨Registry.faithful_empty stands, fun _ => rfl, .nil⟩ h

end Bundle

end JsonSchema
