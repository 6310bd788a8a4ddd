import JsonSchema.Proofs.Evaluation.Overflow

/-!
# The limit on frames

A run that succeeds follows no reference for which there is no frame, so a higher limit would not
have changed anything. And whatever happens in a run, frames are only added below the limit.
-/

namespace JsonSchema

namespace Eval

variable {registry : Registry} {limit limit' : Nat} {answers : Answers} {m m' : Moment}

/-! ## A higher limit -/

/-- The limit matters at a moment only where a reference is followed. -/
theorem answer_of_not_overflow (hle : limit ≤ limit')
    (h : ¬ Fails registry limit m (.stackOverflow limit)) :
    m.answer (nodeAnswer registry limit answers) =
      m.answer (nodeAnswer registry limit' answers) := by
  rcases m.opens_or registry with ⟨k, hopens⟩ | ⟨answer, hanswer⟩
  · rw [hopens.answer, hopens.answer]
    refine Site.performAll_congr_comes fun task mid hcomes => ?_
    rcases Keywords.mem_tasks hcomes.mem with ⟨ref, href, rfl⟩ | htask
    · show (site limit answers _).follow _ _ _ _ = (site limit' answers _).follow _ _ _ _
      cases hj : ref.resolved with
      | none => rfl
      | some j =>
          -- there is a frame left, and so there is with the higher limit
          have hd : ¬ limit ≤ m.call.places.depth :=
            fun hd => h (.overflow hopens href hj hd)
          have hd' : ¬ limit' ≤ m.call.places.depth := by omega
          simp only [site, if_neg hd, if_neg hd']
    · have hviolation : (site limit answers m.call.places).violation =
          (site limit' answers m.call.places).violation := rfl
      have hfollows := (Keywords.own_ownTasks k _ _ htask).follows
      exact Site.perform_congr_started hfollows hviolation fun b trial _ => rfl
  · rw [hanswer, hanswer]

/-- A call that succeeds has the same answer with a higher limit. -/
theorem answer_mono (hs : registry.Sound) (hle : limit ≤ limit') {out : Violations}
    (h : m.answer (answer registry limit) = .ok out) :
    m.answer (answer registry limit') = .ok out := by
  have hwf := InvImage.wf Moment.call (wellFounded_lower limit)
  induction m using hwf.induction generalizing out with
  | _ m ih =>
      have hok : m.answer (nodeAnswer registry limit (answer registry limit)) = .ok out := by
        rw [← answer_eq hs]
        exact h
      have hfine : ∀ e, ¬ Fails registry limit m e := by
        intro e hfails
        rw [nodeAnswer_eq_error.mpr (Or.inl hfails)] at hok
        exact nomatch hok
      -- no call nested in this one fails, so by induction their answers are the same
      have hnested : ∀ m', Makes registry limit (answer registry limit) m m' →
          m'.answer (answer registry limit) = m'.answer (answer registry limit') := by
        intro m' hmakes
        cases ha : m'.answer (answer registry limit) with
        | error e =>
            rw [nodeAnswer_eq_error.mpr (Or.inr ⟨m', hmakes, ha⟩)] at hok
            exact nomatch hok
        | ok out' => exact (ih m' (hmakes.nests.lower hs) ha).symm
      calc m.answer (answer registry limit')
          = m.answer (nodeAnswer registry limit' (answer registry limit')) :=
            congrArg m.answer (answer_eq hs)
        _ = m.answer (nodeAnswer registry limit (answer registry limit')) :=
            (answer_of_not_overflow hle (hfine _)).symm
        _ = m.answer (nodeAnswer registry limit (answer registry limit)) :=
            (nodeAnswer_congr_made hnested).symm
        _ = .ok out := hok

theorem evaluate_mono (hs : registry.Sound) (hle : limit ≤ limit') {cap i : Nat} {frame : Frame}
    {v : Value} {es : List Violation} (h : registry.evaluate limit cap frame i v = .ok es) :
    registry.evaluate limit' cap frame i v = .ok es := by
  obtain ⟨out, hout, rfl⟩ := evaluate_eq_ok.mp h
  exact evaluate_eq_ok.mpr
    ⟨out, answer_mono (m := .start frame i v cap) hs hle hout, rfl⟩

/-- There is an overflow only if there is a node to start with. -/
theorem lt_size_of_overflow (hs : registry.Sound) {cap i l : Nat} {frame : Frame} {v : Value}
    (h : registry.evaluate limit cap frame i v = .error (.stackOverflow l)) :
    i < registry.size := by
  obtain ⟨m, hcomes, hfails⟩ := (evaluate_eq_error hs).mp h
  rcases hcomes.cases_head with rfl | ⟨_, hrun, _⟩
  · cases hfails with
    | overflow hopens _ _ _ =>
        obtain ⟨_, node, hnode, _⟩ := hopens
        exact Registry.lt_size_of_get? hnode
  · exact hrun.nests.lt_size

/-! ## The number of frames -/

theorem Nests.depth_le {c c' : Call} {bound : Nat} (h : Nests registry limit c c')
    (hlimit : limit ≤ bound) (hc : c.places.depth ≤ bound) : c'.places.depth ≤ bound := by
  cases h with
  | inside _ _ _ =>
      rw [EvalStack.depth_below]
      exact hc
  | follow _ _ _ _ hd =>
      rw [EvalStack.depth_pushFrame]
      omega

/-- Frames are added below the limit only. -/
theorem ComesTo.depth_le {bound : Nat} (h : ComesTo registry limit m m') (hlimit : limit ≤ bound)
    (hm : m.call.places.depth ≤ bound) : m'.call.places.depth ≤ bound := by
  induction h with
  | refl => exact hm
  | tail _ hrun ih => exact hrun.nests.depth_le hlimit ih

end Eval

open Eval

/-- **The limit decides success, but not the answer.** What an evaluation answers under a limit, it
also answers under a higher one, so that if it overflows under the higher limit, it does so under
the lower one. However it ends, it never comes to a moment with more frames than the limit allows,
apart from the first frame; the code makes no call at all with more frames than that. -/
theorem limit_decides_success (documents : List Value) (config : Config) (validator : Validator)
    (h : Validator.ofDocuments documents config = .ok validator) :
    (∀ limit limit' cap frame i v es, limit ≤ limit' →
      validator.bundle.registry.evaluate limit cap frame i v = .ok es →
        validator.bundle.registry.evaluate limit' cap frame i v = .ok es) ∧
    (∀ limit limit' cap frame i v, limit ≤ limit' →
      validator.bundle.registry.evaluate limit' cap frame i v = .error (.stackOverflow limit') →
        validator.bundle.registry.evaluate limit cap frame i v = .error (.stackOverflow limit)) ∧
    (∀ limit cap frame i v m, ComesTo validator.bundle.registry limit (.start frame i v cap) m →
      m.call.places.depth ≤ max 1 limit) ∧
    ∀ limit evaluate evaluate', KeepsPlaces evaluate → KeepsPlaces evaluate' →
      AgreeOn (fun c => c.places.depth ≤ max 1 limit) evaluate evaluate' →
        AgreeOn (fun c => c.places.depth ≤ max 1 limit)
          (node evaluate validator.bundle.registry limit)
          (node evaluate' validator.bundle.registry limit) := by
  obtain ⟨hs, hlinked, _⟩ := sound_of_ofDocuments h
  refine ⟨fun limit limit' cap frame i v es hle hok => evaluate_mono hs hle hok,
    fun limit limit' cap frame i v hle he => ?_, fun limit cap frame i v m hcomes => ?_,
    fun limit evaluate evaluate' h h' hagree => ?_⟩
  · cases ha : validator.bundle.registry.evaluate limit cap frame i v with
    | ok es =>
        rw [evaluate_mono hs hle ha] at he
        exact nomatch he
    | error e => rw [raises_of_linked hs hlinked (lt_size_of_overflow hs he) ha]
  · refine hcomes.depth_le (Nat.le_max_right 1 limit) ?_
    exact Nat.le_max_left 1 limit
  · exact agreeOn_node h h' (fun c c' hc hnests => hnests.depth_le (Nat.le_max_right 1 limit) hc)
      hagree

/-- Three frames are enough here, and two are not. -/
theorem limit_decides_success_onDemand : ∃ validator,
    Validator.ofDocuments [onDemand] {} = .ok validator ∧
      validator.bundle.registry.evaluate 2 0 ⟨"", []⟩ 0 .null = .error (.stackOverflow 2) ∧
      (∀ limit, 3 ≤ limit →
        validator.bundle.registry.evaluate limit 0 ⟨"", []⟩ 0 .null = .ok []) ∧
      ∀ m, ComesTo validator.bundle.registry 2 (.start ⟨"", []⟩ 0 .null 0) m →
        m.call.places.depth ≤ 2 := by
  have hruns : (Validator.ofDocuments [onDemand] {}).toOption.map (fun validator =>
      (validator.bundle.registry.evaluate 2 0 ⟨"", []⟩ 0 .null,
        validator.bundle.registry.evaluate 3 0 ⟨"", []⟩ 0 .null)) =
      some (.error (.stackOverflow 2), .ok []) := by
    decide +kernel
  cases hv : Validator.ofDocuments [onDemand] {} with
  | error e => rw [hv] at hruns; exact nomatch hruns
  | ok validator =>
      rw [hv] at hruns
      have heq := Option.some.inj hruns
      obtain ⟨hmono, _, hframes, _⟩ := limit_decides_success [onDemand] {} validator hv
      refine ⟨validator, rfl, congrArg Prod.fst heq, fun limit hlimit => ?_, fun m hcomes => ?_⟩
      · exact hmono 3 limit 0 _ 0 _ _ hlimit (congrArg Prod.snd heq)
      · exact hframes 2 0 _ 0 _ m hcomes

end JsonSchema
