import JsonSchema.Proofs.Evaluation.Gathering
import JsonSchema.Proofs.Evaluation.Overflow
import JsonSchema.Proofs.Evaluation.Trials

/-!
# When the list is full

Once the list of an evaluation is full, nothing is added to it any more, and nothing is evaluated
for real. But trials are still held, for they have lists of their own. So the evaluation ends with
what is in the list, or else a trial fails while the list waits for it. Without trials the first of
these is what happens.
-/

namespace JsonSchema

variable {ι : Type}

namespace Site

variable {site : Site ι} {task : Task ι} {tasks front rest : List (Task ι)}
  {out out' mid : Violations} {b : Branch ι}

/-! ## Where performing tasks has come to -/

theorem ComesTo.exists_front (h : site.ComesTo tasks out task mid) :
    ∃ front rest, tasks = front ++ task :: rest ∧ site.performAll front out = .ok mid := by
  induction h with
  | here => exact ⟨[], _, rfl, rfl⟩
  | @later t _ _ _ _ _ hperform _ ih =>
      obtain ⟨front, rest, rfl, hfront⟩ := ih
      refine ⟨t :: front, rest, rfl, ?_⟩
      rw [performAll_cons, hperform]
      exact hfront

theorem comesTo_of_front (hfront : site.performAll front out = .ok mid)
    (h : site.ComesTo rest mid task out') : site.ComesTo (front ++ rest) out task out' := by
  induction front generalizing out with
  | nil => cases hfront; exact h
  | cons t front ih =>
      rw [performAll_cons] at hfront
      obtain ⟨_, hperform, hfront⟩ := bind_eq_ok hfront
      exact .later hperform (ih hfront)

/-- What a branch answers that is evaluated for real is what its task answers. -/
theorem Starts.perform_eq (h : site.Starts task b false) {a : Except EvalError Violations}
    (ha : site.evaluate b out = a) : site.perform task out = a := by
  cases h with
  | descend => exact ha
  | onPass hc =>
      unfold perform
      dsimp only
      rw [hc]
      exact ha
  | onFail hc =>
      unfold perform
      dsimp only
      rw [hc]
      exact ha

/-! ## With a full list -/

theorem reportIf_full (hout : out.isFull = true) (violated : Bool) (tokens : List String) :
    site.reportIf violated tokens out = out := by
  cases violated with
  | false => rfl
  | true => exact if_pos hout

/-- Branches that are evaluated for real leave a full list as it is. -/
def RestsFull (site : Site ι) : Prop :=
  ∀ b out, out.isFull = true → site.evaluate b out = .ok out

theorem perform_full_ok (hrests : site.RestsFull) (hout : out.isFull = true)
    (hown : ∀ target schema v, task ≠ .follow target schema v)
    (h : site.perform task out = .ok out') : out' = out := by
  have hreport : ∀ {m : Except EvalError Bool} {f : Bool → Bool} {tokens : List String},
      (m >>= fun passed => Except.ok (site.reportIf (f passed) tokens out)) = .ok out' →
        out' = out := by
    intro m f tokens hm
    obtain ⟨_, _, hm⟩ := bind_eq_ok hm
    cases hm
    exact reportIf_full hout _ _
  have hbranch : ∀ o : Option (Branch ι), site.descendIf o out = .ok out' → out' = out := by
    intro o ho
    cases o with
    | none => cases ho; rfl
    | some b =>
        have heq : site.evaluate b out = .ok out' := ho
        rw [hrests b out hout] at heq
        cases heq
        rfl
  cases task with
  | check violated tokens => cases h; exact reportIf_full hout _ _
  | descend b => exact hbranch (some b) h
  | follow target schema v => exact absurd rfl (hown target schema v)
  | choose c onPass onFail =>
      obtain ⟨passed, _, h⟩ := bind_eq_ok h
      cases passed with
      | true => exact hbranch onPass h
      | false => exact hbranch onFail h
  | refute b tokens => exact hreport h
  | some bs tokens => exact hreport h
  | one bs tokens => exact hreport h

/-- With a full list, tasks have no effect, unless a trial fails. -/
theorem performAll_full (hrests : site.RestsFull) (hout : out.isFull = true)
    (hown : ∀ task ∈ tasks, ∀ target schema v, task ≠ .follow target schema v) :
    site.performAll tasks out = .ok out ∨
      ∃ e task b, site.performAll tasks out = .error e ∧ site.ComesTo tasks out task out ∧
        site.Starts task b true ∧ site.evaluate b (.none 1) = .error e := by
  induction tasks with
  | nil => exact Or.inl rfl
  | cons t rest ih =>
      have ht := hown t List.mem_cons_self
      rw [performAll_cons]
      cases hperform : site.perform t out with
      | error e =>
          obtain ⟨b, trial, hstarts, he⟩ := (perform_eq_error ht).mp hperform
          cases trial with
          | false =>
              -- evaluated for real it would not have failed
              have hfine : site.evaluate b out = .error e := he
              rw [hrests b out hout] at hfine
              exact nomatch hfine
          | true => exact Or.inr ⟨e, t, b, rfl, .here, hstarts, he⟩
      | ok out' =>
          have hsame := perform_full_ok hrests hout ht hperform
          subst hsame
          rcases ih fun task htask => hown task (List.mem_cons_of_mem _ htask) with
            hok | ⟨e, task, b, he, hcomes, hstarts, hb⟩
          · exact Or.inl hok
          · exact Or.inr ⟨e, task, b, he, .later hperform hcomes, hstarts, hb⟩

end Site

/-- Behind the first task no reference is followed. -/
theorem Keywords.follows_of_append {k : Keywords} {v : Value} {front rest : List (Task Nat)}
    (h : k.tasks v = front ++ rest) (hfront : front ≠ []) :
    ∀ task ∈ rest, ∀ target schema w, task ≠ .follow target schema w := by
  intro task htask
  have hmem : task ∈ k.ownTasks v := by
    unfold tasks refTasks at h
    cases hr : k.ref with
    | none =>
        have hown : k.ownTasks v = front ++ rest := by rw [hr] at h; exact h
        rw [hown]
        exact List.mem_append_right _ htask
    | some ref =>
        rw [hr] at h
        cases front with
        | nil => exact absurd rfl hfront
        | cons t front =>
            have hown : k.ownTasks v = front ++ rest := (List.cons.inj h).2
            rw [hown]
            exact List.mem_append_right _ htask
  exact (own_ownTasks k v task hmem).follows

namespace Eval

variable {registry : Registry} {limit : Nat} {answers : Answers} {m m' : Moment} {out : Violations}

theorem answerWithin_full (hout : out.isFull = true) (bound : Nat) (s : EvalStack) (i : Nat)
    (v : Value) : answerWithin registry limit bound s i v out = .ok out := by
  cases bound <;> exact if_pos hout

theorem site_restsFull (registry : Registry) (limit : Nat) (s : EvalStack) :
    (site limit (answer registry limit) s).RestsFull :=
  fun _ _ hout => answerWithin_full hout _ _ _ _

/-! ## Lists that wait -/

theorem Makes.waiting (h : Makes registry limit answers m m') : m.waiting <:+ m'.waiting := by
  cases h with
  | @branch k task out b trial _ _ _ =>
      cases trial with
      | false => exact List.suffix_refl _
      | true => exact List.suffix_cons out _
  | follow _ _ _ _ => exact List.suffix_refl _

theorem ComesTo.waiting (h : ComesTo registry limit m m') : m.waiting <:+ m'.waiting := by
  induction h with
  | refl => exact List.suffix_refl _
  | tail _ hrun ih => exact ih.trans hrun.waiting

/-- One moment makes another, which goes on with the same list. -/
def GoesOn (registry : Registry) (limit : Nat) (m m' : Moment) : Prop :=
  Run registry limit m m' ∧ m'.waiting = m.waiting

/-- If no further list waits in the end, none has waited on the way. -/
theorem ComesTo.goesOn (h : ComesTo registry limit m m') (hw : m'.waiting = m.waiting) :
    Relation.ReflTransGen (GoesOn registry limit) m m' := by
  induction h with
  | refl => exact .refl
  | @tail mid m' hcomes hrun ih =>
      have hmid : mid.waiting = m.waiting := by
        refine ((ComesTo.waiting hcomes).eq_of_length_le ?_).symm
        have hlen := hrun.waiting.length_le
        rw [hw] at hlen
        exact hlen
      exact (ih hmid).tail ⟨hrun, hw.trans hmid.symm⟩

/-- What is done up to a moment that goes on with the same list. -/
theorem GoesOn.exists_front (h : GoesOn registry limit m m') : ∃ k front task rest,
    m.Opens registry k ∧ k.tasks m.call.value = front ++ task :: rest ∧
      (site limit (answer registry limit) m.call.places).performAll front m.out = .ok m'.out ∧
      (site limit (answer registry limit) m.call.places).perform task m'.out =
        m'.answer (answer registry limit) := by
  obtain ⟨hrun, hw⟩ := h
  cases hrun with
  | @branch k task out b trial hopens hcomes hstarts =>
      cases trial with
      | true => exact absurd hw (List.cons_ne_self _ _)
      | false =>
          obtain ⟨front, rest, htasks, hfront⟩ := hcomes.exists_front
          exact ⟨k, front, task, rest, hopens, htasks, hfront, hstarts.perform_eq rfl⟩
  | @follow k ref j hopens href hj hd =>
      refine ⟨k, [], .follow ref.target ref.resolved m.call.value, k.ownTasks m.call.value, hopens,
        ?_, rfl, ?_⟩
      · unfold Keywords.tasks Keywords.refTasks
        rw [href]
        rfl
      · simp only [Site.perform, site, hj, if_neg hd]
        rfl

theorem site_continues {tasks : List (Task Nat)} {s : EvalStack} {out' : Violations}
    (h : (site limit (answer registry limit) s).performAll tasks out = .ok out') :
    out.Continues out' :=
  (site_gathers (answerWithin_gathers registry limit _) limit s).performAll tasks out out' h

/-- The list has the same cap as long as the evaluation goes on with it. -/
theorem cap_of_goesOn (h : Relation.ReflTransGen (GoesOn registry limit) m m') :
    m'.out.cap = m.out.cap := by
  induction h with
  | refl => rfl
  | tail _ hstep ih =>
      obtain ⟨_, _, _, _, _, _, hfront, _⟩ := hstep.exists_front
      exact (site_continues hfront).2.trans ih

/-! ## Full lists -/

/-- The moment ends with a list, or else something fails while that list waits. -/
def Settles (registry : Registry) (limit : Nat) (m : Moment) (out : Violations) : Prop :=
  m.answer (answer registry limit) = .ok out ∨
    ∃ e m', m.answer (answer registry limit) = .error e ∧ ComesTo registry limit m m' ∧
      Fails registry limit m' e ∧ out :: m.waiting <:+ m'.waiting

/-- Once the list is full, the node settles it. -/
theorem settles_of_front (hs : registry.Sound) {k : Keywords} (hopens : m.Opens registry k)
    {front rest : List (Task Nat)} (htasks : k.tasks m.call.value = front ++ rest)
    (hfront : (site limit (answer registry limit) m.call.places).performAll front m.out = .ok out)
    (hout : out.isFull = true) : Settles registry limit m out := by
  have hne : front ≠ [] := by
    rintro rfl
    cases hfront
    exact hopens.room hout
  have hanswer : m.answer (answer registry limit) =
      (site limit (answer registry limit) m.call.places).performAll rest out := by
    have heq := congrArg m.answer (@answer_eq registry limit hs)
    rw [heq, hopens.answer, htasks, Site.performAll_append, hfront]
    rfl
  rcases Site.performAll_full (site_restsFull registry limit m.call.places) hout
    (Keywords.follows_of_append htasks hne) with hok | ⟨e, task, b, he, hcomes, hstarts, hb⟩
  · exact Or.inl (hanswer.trans hok)
  · -- a trial fails, and the list waits for it
    have hcomes' := Site.comesTo_of_front hfront hcomes
    rw [← htasks] at hcomes'
    have htrial : (m.started b out true).answer (answer registry limit) = .error e := hb
    obtain ⟨m', hrest, hfails⟩ := (answer_eq_error hs).mp htrial
    have hrun : Run registry limit m (m.started b out true) := .branch hopens hcomes' hstarts
    exact Or.inr ⟨e, m', hanswer.trans he, .head hrun hrest, hfails, hrest.waiting⟩

/-- What a nested call settles, its own call settles. -/
theorem Settles.of_goesOn (hs : registry.Sound) (hout : out.isFull = true)
    (h : Settles registry limit m' out) (hstep : GoesOn registry limit m m') :
    Settles registry limit m out := by
  rcases h with hok | ⟨e, m'', he, hcomes, hfails, hwaiting⟩
  · obtain ⟨k, front, task, rest, hopens, htasks, hfront, hperform⟩ := hstep.exists_front
    have htasks' : k.tasks m.call.value = (front ++ [task]) ++ rest := by
      rw [htasks, List.append_assoc]
      rfl
    refine settles_of_front hs hopens htasks' ?_ hout
    rw [Site.performAll_append, hfront]
    show Site.performAll _ [task] m'.out = .ok out
    rw [Site.performAll_singleton, hperform]
    exact hok
  · have hcomes' := Relation.ReflTransGen.head hstep.1 hcomes
    rw [hstep.2] at hwaiting
    have he' := (answer_eq_error hs).mpr ⟨m'', hcomes', hfails⟩
    exact Or.inr ⟨e, m'', he', hcomes', hfails, hwaiting⟩

theorem Settles.of_comesTo (hs : registry.Sound) (hout : out.isFull = true)
    (h : Settles registry limit m' out)
    (hgoes : Relation.ReflTransGen (GoesOn registry limit) m m') :
    Settles registry limit m out := by
  induction hgoes using Relation.ReflTransGen.head_induction_on with
  | refl => exact h
  | head hstep _ ih => exact ih.of_goesOn hs hout hstep

/-- Without trials no list waits. -/
theorem ComesTo.waiting_eq
    (hquiet : ∀ {i node k}, registry.get? i = some node → node.body = .keywords k → k.trials = [])
    (h : ComesTo registry limit m m') : m'.waiting = m.waiting := by
  induction h with
  | refl => rfl
  | @tail m₁ m₂ _ hrun ih =>
      rw [← ih]
      cases hrun with
      | @branch k task out b trial hopens hcomes hstarts =>
          cases trial with
          | false => rfl
          | true =>
              rcases Keywords.mem_tasks hcomes.mem with ⟨_, _, rfl⟩ | htask
              · exact nomatch hstarts
              · have hmem := Keywords.trials_ownTasks htask hstarts.mem_trials
                obtain ⟨_, node, hnode, hbody⟩ := hopens
                rw [hquiet hnode hbody] at hmem
                exact absurd hmem List.not_mem_nil
      | follow _ _ _ _ => rfl

end Eval

open Eval

/-- **Early exit.** If at some point of an evaluation its list has reached the cap, the evaluation
ends with exactly what is in the list then, or else it fails while that list waits for a trial. If
nothing in the documents is put on trial, it does not fail. -/
theorem full_list_settles (documents : List Value) (config : Config) (validator : Validator)
    (h : Validator.ofDocuments documents config = .ok validator) (limit cap : Nat) (frame : Frame)
    (i : Nat) (v : Value) (m : Moment)
    (hcomes : ComesTo validator.bundle.registry limit (.start frame i v cap) m)
    (hlist : m.waiting = []) (k : Keywords) (hopens : m.Opens validator.bundle.registry k)
    (front rest : List (Task Nat)) (htasks : k.tasks m.call.value = front ++ rest)
    (out : Violations)
    (hfront : (site limit (answer validator.bundle.registry limit) m.call.places).performAll front
      m.out = .ok out)
    (hcap : 0 < cap) (hout : out.found.length = cap) :
    (validator.bundle.registry.evaluate limit cap frame i v = .ok out.found ∨
      ∃ e m', validator.bundle.registry.evaluate limit cap frame i v = .error e ∧
        ComesTo validator.bundle.registry limit (.start frame i v cap) m' ∧
        Fails validator.bundle.registry limit m' e ∧ m'.waiting.getLast? = some out) ∧
    ((∀ i node k, validator.bundle.registry.get? i = some node → node.body = .keywords k →
      k.trials = []) →
        validator.bundle.registry.evaluate limit cap frame i v = .ok out.found) := by
  obtain ⟨hs, _, _⟩ := sound_of_ofDocuments h
  have hgoes := hcomes.goesOn hlist
  have hfull : out.isFull = true := by
    have hsame : out.cap = cap := (site_continues hfront).2.trans (cap_of_goesOn hgoes)
    refine (Violations.isFull_iff out).mpr ?_
    omega
  have hsettles := (settles_of_front hs hopens htasks hfront hfull).of_comesTo hs hfull hgoes
  rw [evaluate_eq_answer]
  rcases hsettles with hok | ⟨e, m', he, hcomes', hfails, hwaiting⟩
  · rw [hok]
    exact ⟨Or.inl rfl, fun _ => rfl⟩
  · rw [he]
    refine ⟨Or.inr ⟨e, m', rfl, hcomes', hfails, ?_⟩, fun hquiet => ?_⟩
    · obtain ⟨inner, hinner⟩ := hwaiting
      rw [← hinner]
      exact List.getLast?_concat
    · have hnone := ComesTo.waiting_eq (hquiet _ _ _) hcomes'
      rw [hnone] at hwaiting
      exact absurd hwaiting.length_le (Nat.not_succ_le_self _)

/-- The list after the first tasks of the node with which an evaluation starts. -/
def listAfter (registry : Registry) (limit cap count i : Nat) (v : Value) :
    Option (Except EvalError Violations) :=
  (registry.get? i).bind fun node =>
    match node.body with
    | .bool _ => none
    | .keywords k =>
      let start := EvalStack.empty.pushFrame ⟨"", []⟩
      some ((site limit (answer registry limit) start).performAll ((k.tasks v).take count)
        (.none cap))

theorem opens_of_listAfter {registry : Registry} {limit cap count i : Nat} {v : Value}
    {a : Except EvalError Violations} (h : listAfter registry limit cap count i v = some a) :
    ∃ k, (Moment.start ⟨"", []⟩ i v cap).Opens registry k ∧
      (site limit (answer registry limit) (EvalStack.empty.pushFrame ⟨"", []⟩)).performAll
        ((k.tasks v).take count) (.none cap) = a := by
  obtain ⟨node, hnode, h⟩ := Option.bind_eq_some_iff.mp h
  cases hbody : node.body with
  | bool b => rw [hbody] at h; exact nomatch h
  | keywords k =>
      rw [hbody] at h
      have hroom : ¬ (Violations.none cap).isFull = true := by
        rw [Violations.isFull_iff]
        exact fun hfull => hfull.1 (Nat.le_zero.mp hfull.2)
      exact ⟨k, ⟨hroom, node, hnode, hbody⟩, Option.some.inj h⟩

/-- Two keywords that a truth value violates. -/
def twice : Value := .object [("const", .null), ("type", .string "string")]

/-- After the first violation the list is full, and the second one is not reported. -/
theorem full_list_settles_twice : ∃ validator,
    Validator.ofDocuments [twice] { maxErrors := 1 } = .ok validator ∧
      validator.bundle.registry.evaluate 128 1 ⟨"", []⟩ 0 (.bool true) =
        .ok [⟨.root, ⟨["const"]⟩, ""⟩] := by
  have hchecks : (Validator.ofDocuments [twice] { maxErrors := 1 }).toOption.map (fun validator =>
      (listAfter validator.bundle.registry 128 1 1 0 (.bool true),
        validator.bundle.registry.nodes.toList.all fun node => match node.body with
          | .bool _ => true
          | .keywords k => k.trials.isEmpty)) =
      some (some (.ok ⟨[⟨.root, ⟨["const"]⟩, ""⟩], 1⟩), true) := by
    decide +kernel
  cases hv : Validator.ofDocuments [twice] { maxErrors := 1 } with
  | error e => rw [hv] at hchecks; exact nomatch hchecks
  | ok validator =>
      rw [hv] at hchecks
      obtain ⟨hlist, hquiet⟩ := Prod.mk.inj (Option.some.inj hchecks)
      obtain ⟨k, hopens, hfront⟩ := opens_of_listAfter hlist
      refine ⟨validator, rfl, ?_⟩
      have hsettles := full_list_settles [twice] { maxErrors := 1 } validator hv 128 1 ⟨"", []⟩ 0
        (.bool true) (.start ⟨"", []⟩ 0 (.bool true) 1) .refl rfl k hopens
        ((k.tasks (.bool true)).take 1) ((k.tasks (.bool true)).drop 1)
        (List.take_append_drop 1 _).symm _ hfront (by decide) rfl
      refine hsettles.2 fun i node k hnode hbody => ?_
      have hmem := Array.mem_toList_iff.mpr (Array.mem_of_getElem? hnode)
      have hnode := List.all_eq_true.mp hquiet node hmem
      rw [hbody] at hnode
      exact List.isEmpty_iff.mp hnode

/-- A keyword that a truth value violates, and a trial that leads back to the schema. -/
def settled : Value :=
  .object [("const", .null), ("anyOf", .array [.object [("$ref", .string "#")]])]

/-- The only violation that may be reported has been, and still the evaluation overflows. -/
theorem overflow_after_cap : ∃ validator,
    Validator.ofDocuments [settled] { maxStackDepth := 3, maxErrors := 1 } = .ok validator ∧
      validator.validate (.bool true) = .error (.stackOverflow 3) ∧
      ∃ m out, ComesTo validator.bundle.registry 3 (.start ⟨"", []⟩ 1 (.bool true) 1) m ∧
        Fails validator.bundle.registry 3 m (.stackOverflow 3) ∧ m.waiting.getLast? = some out ∧
        out = ⟨[⟨.root, ⟨["const"]⟩, ""⟩], 1⟩ := by
  have hchecks : (Validator.ofDocuments [settled]
      { maxStackDepth := 3, maxErrors := 1 }).toOption.map (fun validator =>
        (listAfter validator.bundle.registry 3 1 1 1 (.bool true),
          validator.bundle.registry.evaluate 3 1 ⟨"", []⟩ 1 (.bool true),
          validator.validate (.bool true))) =
      some (some (.ok ⟨[⟨.root, ⟨["const"]⟩, ""⟩], 1⟩), .error (.stackOverflow 3),
        .error (.stackOverflow 3)) := by
    decide +kernel
  cases hv : Validator.ofDocuments [settled] { maxStackDepth := 3, maxErrors := 1 } with
  | error e => rw [hv] at hchecks; exact nomatch hchecks
  | ok validator =>
      rw [hv] at hchecks
      obtain ⟨hlist, hruns⟩ := Prod.mk.inj (Option.some.inj hchecks)
      obtain ⟨hevaluate, hvalidate⟩ := Prod.mk.inj hruns
      obtain ⟨k, hopens, hfront⟩ := opens_of_listAfter hlist
      obtain ⟨hs, _, _⟩ := sound_of_ofDocuments hv
      refine ⟨validator, rfl, hvalidate, ?_⟩
      rw [evaluate_eq_answer] at hevaluate
      have hsettles := settles_of_front hs hopens (List.take_append_drop 1 _).symm hfront rfl
      rcases hsettles with hok | ⟨e, m, he, hcomes, hfails, inner, hinner⟩
      · rw [hok] at hevaluate
        exact nomatch hevaluate
      · rw [he] at hevaluate
        cases hevaluate
        refine ⟨m, _, hcomes, hfails, ?_, rfl⟩
        rw [← hinner]
        exact List.getLast?_concat

end JsonSchema
