import JsonSchema.Proofs.Compilation.Formed
import JsonSchema.Proofs.Compilation.Linking

/-!
# Compiling and linking come to an end

Well-formed documents are compiled without an error, and so is every schema that a reference leads
to if all schemas that stand somewhere are well-formed. A document that shares its base with earlier
ones must equal the first of them.
-/

namespace JsonSchema

open Direct Compile

/-- Documents with the same base are equal. -/
def OneForEach (documents : List Value) : Prop :=
  documents.Pairwise fun d d' => ∀ base, documentBase .anonymous d = .ok base →
    documentBase .anonymous d' = .ok base → d.same d' = true

/-- Every document equals the one that is kept for its base. -/
def EqualsKept (documents : List Value) : Prop :=
  ∀ document ∈ documents, ∀ {base owner}, documentBase .anonymous document = .ok base →
    documentAt documents base = some owner → owner.same document = true

/-- No two documents have the same base. -/
def Apart (documents : List Value) : Prop :=
  documents.Pairwise fun d d' => ∀ base, documentBase .anonymous d = .ok base →
    documentBase .anonymous d' ≠ .ok base

theorem Apart.oneForEach (h : Apart documents) : OneForEach documents :=
  h.imp fun hne base hbase hbase' => absurd hbase' (hne base hbase)

/-- The bases of two documents may be told apart by their texts. -/
theorem apart_pair {d d' : Value}
    (h : (documentBase .anonymous d).toOption.map BaseUri.text ≠
      (documentBase .anonymous d').toOption.map BaseUri.text) : Apart [d, d'] := by
  refine .cons (fun document hmem base hbase hbase' => ?_) (List.pairwise_singleton _ _)
  rw [List.mem_singleton.mp hmem] at hbase'
  rw [hbase, hbase'] at h
  exact h rfl

/-- Schemas that stand somewhere are well-formed. -/
def AllFormed (stands : Target → Value → Prop) : Prop :=
  ∀ here v, stands here v → v.Distinct ∧ v.formed here.base = true

/-- A document with a base compiles if its schema does. -/
theorem exists_compileRoot {document : Value} {base : BaseUri}
    (hbase : documentBase .anonymous document = .ok base)
    (h : Succeeds (within document.height { base, pointer := .root } document)) (r : Registry) :
    ∃ root r', (compileRoot document).run r = (.ok root, r') ∧ root.base = base := by
  obtain ⟨i, r', hi⟩ := h r
  refine ⟨{ base, index := i }, r', ?_, rfl⟩
  rw [run_compileRoot, hbase]
  dsimp only
  rw [hi]

namespace Bundle

variable {documents : List Value} {stands : Target → Value → Prop} {kept : Members Value}

/-! ## Documents -/

/-- One more document does not fail. -/
theorem exists_add {processed rest : List Value} {document : Value} {s : Roots}
    (hkept : EqualsKept (processed ++ document :: rest)) (hinv : RootsOf stands processed s)
    {base : BaseUri} (hbase : documentBase .anonymous document = .ok base)
    (h : Succeeds (within document.height { base, pointer := .root } document)) :
    ∃ s', s.add document = .ok s' := by
  obtain ⟨root, r', hrun, rfl⟩ := exists_compileRoot hbase h s.registry
  unfold Roots.add
  rw [hrun]
  dsimp only
  rw [hinv.owner]
  cases howner : documentAt processed root.base with
  | none => exact ⟨_, rfl⟩
  | some owner =>
      have hfirst : documentAt (processed ++ document :: rest) root.base = some owner := by
        rw [documentAt_append, howner]
        rfl
      have hmem : document ∈ processed ++ document :: rest :=
        List.mem_append_right _ List.mem_cons_self
      dsimp only
      rw [if_pos (hkept document hmem hbase hfirst)]
      exact ⟨_, rfl⟩

/-- **The documents compile** if the schemas at their roots do. -/
theorem exists_compileRoots (hs : Supports documents stands) (hkept : EqualsKept documents)
    (h : ∀ document ∈ documents, ∃ base, documentBase .anonymous document = .ok base ∧
      Succeeds (within document.height { base, pointer := .root } document)) :
    ∃ s, compileRoots documents = .ok s := by
  have hfold : ∀ (rest processed : List Value) (s₀ : Roots), documents = processed ++ rest →
      RootsOf stands processed s₀ → ∃ s, rest.foldlM Roots.add s₀ = .ok s := by
    intro rest
    -- over the documents that are left, as for what is known after them
    induction rest with
    | nil => exact fun processed s₀ _ _ => ⟨s₀, rfl⟩
    | cons document rest ih =>
        intro processed s₀ hsplit hinv
        have hmem : document ∈ documents := by
          rw [hsplit]
          exact List.mem_append_right _ List.mem_cons_self
        obtain ⟨base, hbase, hsucceeds⟩ := h document hmem
        obtain ⟨s₁, hadd⟩ := exists_add (hsplit ▸ hkept) hinv hbase hsucceeds
        obtain ⟨s, hs'⟩ := ih (processed ++ [document]) s₁
          (by rw [hsplit, List.append_assoc]; rfl) (hinv.add hs hsplit hadd)
        refine ⟨s, ?_⟩
        rw [List.foldlM_cons, hadd]
        exact hs'
  exact hfold documents [] _ rfl ⟨Registry.faithful_empty stands, fun _ => rfl, .nil⟩

/-! ## Linking -/

/-- Dealing with a target does not fail. -/
theorem exists_attempt (hs : Supports documents stands) (hformed : AllFormed stands)
    (howner : ∀ base : BaseUri, kept.get? base.text = documentAt documents base) {target : Target}
    (hsought : Registry.Sought stands target) (s : Linking) :
    ∃ s', s.attempt kept target = .ok s' := by
  unfold Linking.attempt
  split
  · exact ⟨_, rfl⟩
  · dsimp only
    rw [howner]
    cases hdocument : documentAt documents target.base with
    | none => exact ⟨_, rfl⟩
    | some document =>
        dsimp only
        rw [Pointer.resolve_eq_walk]
        cases hwalk : Pointer.walk target.pointer.tokens document with
        | none => exact ⟨_, rfl⟩
        | some v =>
            dsimp only
            have hvalue : valueAt documents target = some v := by
              unfold valueAt
              rw [hdocument]
              exact hwalk
            obtain ⟨here, members, hhere, hrefers⟩ := hsought
            have hstands := hs.target hhere hrefers hvalue
            obtain ⟨i, r', hrun⟩ := within_succeeds hs.closed
              (fun here v hv => (hformed here v hv).2) hstands (Nat.le_refl _) s.registry
            rw [run_compileAt (baseOf_of_documentAt hdocument hwalk), hrun]
            exact ⟨_, rfl⟩

theorem exists_attempts (hs : Supports documents stands) (hformed : AllFormed stands)
    (howner : ∀ base : BaseUri, kept.get? base.text = documentAt documents base)
    {targets : List Target} (hsought : ∀ target ∈ targets, Registry.Sought stands target)
    (s : Linking) : ∃ s', targets.foldlM (Linking.attempt kept) s = .ok s' := by
  induction targets generalizing s with
  | nil => exact ⟨s, rfl⟩
  | cons target rest ih =>
      rw [List.forall_mem_cons] at hsought
      obtain ⟨s₁, hattempt⟩ := exists_attempt hs hformed howner hsought.1 s
      obtain ⟨s', hrest⟩ := ih hsought.2 s₁
      refine ⟨s', ?_⟩
      rw [List.foldlM_cons, hattempt]
      exact hrest

/-- **Linking does not fail.** -/
theorem exists_passes (hs : Supports documents stands) (hformed : AllFormed stands)
    (howner : ∀ base : BaseUri, kept.get? base.text = documentAt documents base) (bound : Nat)
    {s : Linking} (hgood : Good documents stands s) :
    ∃ s', Linking.passes kept bound s = .ok s' := by
  induction bound generalizing s with
  | zero => exact ⟨s, rfl⟩
  | succ bound ih =>
      rw [Linking.passes]
      dsimp only
      split
      · exact ⟨_, rfl⟩
      · have hsought : ∀ target ∈ s.registry.link.1, Registry.Sought stands target :=
          fun _ ht => hgood.faithful.sought ht
        obtain ⟨s₁, hattempts⟩ := exists_attempts hs hformed howner hsought s.opened
        have hpass := advance_pass hs howner hgood hattempts
        show ∃ s', (s.registry.link.1.foldlM (Linking.attempt kept) s.opened >>= fun s =>
          if s.progressed then Linking.passes kept bound s else return s) = .ok s'
        rw [hattempts]
        show ∃ s', (if s₁.progressed then Linking.passes kept bound s₁ else return s₁) = .ok s'
        split
        · exact ih hpass.good
        · exact ⟨_, rfl⟩

end Bundle

end JsonSchema
