import JsonSchema.Proofs.Evaluation.Termination
import JsonSchema.Validator

/-!
# Evaluation fails for lack of frames only

In a registry whose references are linked, an evaluation never meets an index without a node or a
reference without a link. It comes to an end, too, so that the only error is that there are no
frames left. Accepted documents have such a registry.
-/

namespace JsonSchema

theorem sound_of_ofDocuments {documents : List Value} {config : Config} {validator : Validator}
    (h : Validator.ofDocuments documents config = .ok validator) :
    validator.bundle.registry.Sound ∧ validator.bundle.registry.Linked ∧
      validator.config = config := by
  obtain ⟨bundle, hbundle, hvalidator⟩ := bind_eq_ok h
  cases hvalidator
  obtain ⟨hfaithful, hlinked, _⟩ := Bundle.linked_of_ofDocuments (supports_true documents) hbundle
  exact ⟨hfaithful.sound, hlinked, rfl⟩

/-- Wherever it is run, an evaluation fails for lack of frames only. -/
theorem Eval.answer_raises {registry : Registry} (hs : registry.Sound) (hl : registry.Linked)
    {limit i : Nat} {s : EvalStack} {v : Value} {out : Violations} {e : EvalError}
    (hi : i < registry.size) (h : Eval.answer registry limit s i v out = .error e) :
    e = .stackOverflow limit := by
  obtain ⟨m, hcomes, hfails⟩ := (Eval.answer_eq_error hs (m := ⟨⟨s, i, v⟩, out, []⟩)).mp h
  rcases hfails.overflow_or_unlinked (hcomes.lt_size hs hi) with
    heq | ⟨k, ref, hopens, href, hnone, _⟩
  · exact heq
  · obtain ⟨_, node, hnode, hbody⟩ := hopens
    obtain ⟨j, hj⟩ := hl hnode (Node.ref?_of_keywords hbody href)
    rw [hnone] at hj
    exact nomatch hj

theorem raises_of_linked {registry : Registry} (hs : registry.Sound) (hl : registry.Linked)
    {limit cap i : Nat} {frame : Frame} {v : Value} {e : EvalError} (hi : i < registry.size)
    (h : registry.evaluate limit cap frame i v = .error e) : e = .stackOverflow limit := by
  rw [Eval.evaluate_eq_answer] at h
  cases ha : (Eval.Moment.start frame i v cap).answer (Eval.answer registry limit) with
  | ok out => rw [ha] at h; exact nomatch h
  | error e' =>
      rw [ha] at h
      cases h
      exact Eval.answer_raises hs hl hi ha

theorem evaluate_raises {registry : Registry} {stands : Target → Value → Prop}
    (hf : registry.Faithful stands) (hl : registry.Linked) {limit cap i : Nat} {frame : Frame}
    {v : Value} {e : EvalError} (hi : i < registry.size)
    (h : registry.evaluate limit cap frame i v = .error e) : e = .stackOverflow limit :=
  raises_of_linked hf.sound hl hi h

/-- **Construction links completely.** If documents are accepted, every reference in the registry is
linked to the node with the key of its target. So no evaluation from any node, with any limits,
meets a reference that is not linked or an index without a node, and validation fails only for lack
of frames, or because there is no schema for the selector. -/
theorem ofDocuments_links (documents : List Value) (config : Config) (validator : Validator)
    (h : Validator.ofDocuments documents config = .ok validator) :
    (∀ i node ref, validator.bundle.registry.get? i = some node → node.ref? = some ref →
      ∃ j there, ref.resolved = some j ∧ j < validator.bundle.registry.size ∧
        validator.bundle.registry.get? j = some there ∧ there.uri = ref.target.key) ∧
    (∀ limit cap frame i v e, i < validator.bundle.registry.size →
      validator.bundle.registry.evaluate limit cap frame i v = .error e →
        e = .stackOverflow limit) ∧
    (∀ v e, validator.validate v = .error e →
      e = .stackOverflow config.maxStackDepth ∨ documents = [] ∧ e = .unknownSchema "") ∧
    ∀ selector v e, validator.validateAt selector v = .error e →
      e = .stackOverflow config.maxStackDepth ∨ e = .unknownSchema selector := by
  obtain ⟨bundle, hbundle, hvalidator⟩ := bind_eq_ok h
  cases hvalidator
  obtain ⟨hfaithful, hlinked, hroots⟩ :=
    Bundle.linked_of_ofDocuments (supports_true documents) hbundle
  refine ⟨fun i node ref hn href => ?_, fun limit cap frame i v e hi he =>
    evaluate_raises hfaithful hlinked hi he, fun v e he => ?_, fun selector v e he => ?_⟩
  · obtain ⟨j, hj⟩ := hlinked hn href
    have hfound := hfaithful.lookup_of_resolved hn href hj
    obtain ⟨there, hthere, huri⟩ := hfaithful.coherent _ _ hfound
    exact ⟨j, there, hj, hfaithful.coherent.lt_size hfound, hthere, huri⟩
  · unfold Validator.validate at he
    dsimp only at he
    cases hr : bundle.roots.getLast? with
    | none =>
        rw [hr] at he
        cases he
        rw [List.getLast?_eq_none_iff] at hr
        rw [hr, List.forall₂_nil_right_iff] at hroots
        exact Or.inr ⟨hroots, rfl⟩
    | some root =>
        rw [hr] at he
        obtain ⟨_, _, hfound⟩ := exists_of_mem_right hroots (List.mem_of_getLast? hr)
        exact Or.inl (evaluate_raises hfaithful hlinked (hfaithful.coherent.lt_size hfound) he)
  · unfold Validator.validateAt at he
    cases ht : Target.ofSelector selector with
    | error cause => rw [ht] at he; cases he; exact Or.inr rfl
    | ok target =>
        rw [ht] at he
        dsimp only at he
        cases hi : bundle.registry.lookup target.key with
        | none => rw [hi] at he; cases he; exact Or.inr rfl
        | some i =>
            rw [hi] at he
            exact Or.inl (evaluate_raises hfaithful hlinked (hfaithful.coherent.lt_size hi) he)

/-- A schema below `definitions`, which is compiled when it is referred to, and which refers to
itself and to one further inside. -/
def onDemand : Value :=
  .object [("$ref", .string "#/definitions/a"),
    ("definitions", .object [("a", .object [
      ("anyOf", .array [.object [("$ref", .string "#/definitions/a/default")],
        .object [("$ref", .string "#/definitions/a")]]),
      ("default", .bool true)])])]

theorem ofDocuments_links_onDemand : ∃ validator,
    Validator.ofDocuments [onDemand] {} = .ok validator ∧
      ∀ i node ref, validator.bundle.registry.get? i = some node → node.ref? = some ref →
        ∃ j there, ref.resolved = some j ∧ j < validator.bundle.registry.size ∧
          validator.bundle.registry.get? j = some there ∧ there.uri = ref.target.key := by
  have haccepted : (Validator.ofDocuments [onDemand] {}).toOption.isSome = true := by
    decide +kernel
  cases hv : Validator.ofDocuments [onDemand] {} with
  | error e => rw [hv] at haccepted; exact nomatch haccepted
  | ok validator => exact ⟨validator, rfl, (ofDocuments_links [onDemand] {} validator hv).1⟩

end JsonSchema
