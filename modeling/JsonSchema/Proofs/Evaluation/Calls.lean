import JsonSchema.Proofs.Evaluation.Verdict
import Mathlib.Logic.Relation

/-!
# The calls of an evaluation

Evaluating a value against a node may make further calls: one for a branch of a task, and one for
the reference that is followed. Whatever every call hands on to the calls that it makes holds at all
calls of an evaluation.

Every violation that is found is reported at one of these calls: there the schema is `false`, or a
task of the node is not met.
-/

namespace JsonSchema

variable {ι : Type} {registry : Registry}

/-- The way to the keyword of a task that reports violations itself. -/
def Task.reports : Task ι → Option (List String)
  | check _ tokens => Option.some tokens
  | descend _ => none
  | follow _ _ _ => none
  | choose _ _ _ => none
  | refute _ tokens => Option.some tokens
  | some _ tokens => Option.some tokens
  | one _ tokens => Option.some tokens

/-- A task of a node follows its reference, or belongs to another keyword. -/
theorem Keywords.mem_tasks {k : Keywords} {v : Value} {task : Task Nat} (h : task ∈ k.tasks v) :
    (∃ ref, k.ref = some ref ∧ task = .follow ref.target ref.resolved v) ∨
      task ∈ k.ownTasks v := by
  refine (List.mem_append.mp h).imp (fun h => ?_) id
  unfold refTasks at h
  cases hr : k.ref with
  | none => rw [hr] at h; exact absurd h List.not_mem_nil
  | some ref => rw [hr] at h; exact ⟨ref, rfl, List.mem_singleton.mp h⟩

/-- Whatever is added to the list has a property. -/
def Finds (Q : Violation → Prop) (ev : Violations → Except EvalError Violations) : Prop :=
  ∀ out out', ev out = .ok out' → ∀ e ∈ out'.found, e ∈ out.found ∨ Q e

theorem Violations.mem_found_add {out : Violations} {e e' : Violation}
    (h : e ∈ (out.add e').found) : e ∈ out.found ∨ e = e' := by
  unfold add at h
  split at h
  · exact Or.inl h
  · exact (List.mem_append.mp h).imp id List.mem_singleton.mp

namespace Site

/-! ## What tasks find -/

variable {site : Site Nat} {Q : Violation → Prop}

theorem finds_descendIf {b : Option (Branch Nat)} (h : ∀ c ∈ b, Finds Q (site.evaluate c)) :
    Finds Q (site.descendIf b) := by
  intro out out' hok
  cases b with
  | none => cases hok; exact fun e he => Or.inl he
  | some b => exact h b rfl out out' hok

theorem mem_found_reportIf {violated : Bool} {tokens : List String} {out : Violations}
    (h : violated = true → Q (site.violation tokens)) {e : Violation}
    (he : e ∈ (site.reportIf violated tokens out).found) : e ∈ out.found ∨ Q e := by
  cases violated with
  | false => exact Or.inl he
  | true =>
      rcases Violations.mem_found_add he with he | rfl
      · exact Or.inl he
      · exact Or.inr (h rfl)

/-- What a task finds is found by its branches or by the reference, or the task reports it. It
reports nothing unless it is not met. -/
theorem finds_perform (hd : site.Decides registry) {task : Task Nat}
    (hb : ∀ b ∈ task.branches, Finds Q (site.evaluate b))
    (hf : ∀ target schema v, task = .follow target schema v →
      Finds Q (site.follow target schema v))
    (hr : ∀ tokens, task.reports = some tokens → Verdict registry task.demand false →
      Q (site.violation tokens)) :
    Finds Q (site.perform task) := by
  intro out out' hok
  cases task with
  | check violated tokens =>
      cases hok
      intro e
      refine mem_found_reportIf fun hviolated => hr tokens rfl ?_
      rw [hviolated]
      exact .holds false
  | descend b => exact hb b List.mem_cons_self out out' hok
  | follow target schema v => exact hf target schema v rfl out out' hok
  | choose condition onPass onFail =>
      have hpass : ∀ c ∈ onPass, Finds Q (site.evaluate c) := fun c hc =>
        hb c (List.mem_cons_of_mem _ (List.mem_append_left _ (Option.mem_toList.mpr hc)))
      have hfail : ∀ c ∈ onFail, Finds Q (site.evaluate c) := fun c hc =>
        hb c (List.mem_cons_of_mem _ (List.mem_append_right _ (Option.mem_toList.mpr hc)))
      obtain ⟨passed, _, hok⟩ := bind_eq_ok hok
      cases passed with
      | true => exact finds_descendIf hpass out out' hok
      | false => exact finds_descendIf hfail out out' hok
  | refute b tokens =>
      obtain ⟨passed, hpassed, hok⟩ := bind_eq_ok hok
      cases hok
      intro e
      refine mem_found_reportIf fun hviolated => hr tokens rfl ?_
      have hverdict := (hd.passes hpassed).negation
      rw [hviolated] at hverdict
      exact hverdict
  | some bs tokens =>
      obtain ⟨passed, hpassed, hok⟩ := bind_eq_ok hok
      cases hok
      intro e
      refine mem_found_reportIf fun hviolated => hr tokens rfl ?_
      have hverdict := hd.somePasses hpassed
      rw [Bool.not_eq_true'] at hviolated
      rw [hviolated] at hverdict
      exact hverdict
  | one bs tokens =>
      obtain ⟨passed, hpassed, hok⟩ := bind_eq_ok hok
      cases hok
      intro e
      refine mem_found_reportIf fun hviolated => hr tokens rfl ?_
      have hverdict := hd.onePasses hpassed
      rw [Bool.not_eq_true'] at hviolated
      rw [hviolated] at hverdict
      exact hverdict

theorem finds_performAll {tasks : List (Task Nat)}
    (h : ∀ task ∈ tasks, Finds Q (site.perform task)) : Finds Q (site.performAll tasks) := by
  induction tasks with
  | nil => intro out out' hok; cases hok; exact fun e he => Or.inl he
  | cons task rest ih =>
      intro out out' hok e he
      rw [performAll_cons] at hok
      obtain ⟨mid, hmid, hok⟩ := bind_eq_ok hok
      rcases ih (fun t ht => h t (List.mem_cons_of_mem _ ht)) mid out' hok e he with he | hq
      · exact h task List.mem_cons_self out mid hmid e he
      · exact Or.inr hq

end Site

namespace Eval

/-! ## Calls -/

/-- A call: the places at which it is made, the index of the node, and the value. -/
structure Call where
  places : EvalStack
  index : Nat
  value : Value

/-- The call of an evaluation that starts at a frame. -/
def Call.start (frame : Frame) (index : Nat) (v : Value) : Call :=
  ⟨EvalStack.empty.pushFrame frame, index, v⟩

/-- A call makes another one: for a branch of a task of its node, or for a linked reference. -/
inductive Calls (registry : Registry) (c : Call) : Call → Prop
  | branch {node : Node} {k : Keywords} {task : Task Nat} {b : Branch Nat} :
      registry.get? c.index = some node → node.body = .keywords k → task ∈ k.tasks c.value →
      b ∈ task.branches →
      Calls registry c ⟨c.places.below b.tokens b.token, b.schema, b.value⟩
  | follow {node : Node} {k : Keywords} {target : Target} {j : Nat} {v : Value} :
      registry.get? c.index = some node → node.body = .keywords k →
      .follow target (some j) v ∈ k.tasks c.value →
      Calls registry c ⟨c.places.pushFrame ⟨target.base.text, target.pointer.tokens⟩, j, v⟩

/-- A violation is reported at a call, and not at one that it makes. -/
inductive Reports (registry : Registry) (c : Call) : Violation → Prop
  | never {node : Node} : registry.get? c.index = some node → node.body = .bool false →
      Reports registry c c.places.violation
  | task {node : Node} {k : Keywords} {task : Task Nat} {tokens : List String} :
      registry.get? c.index = some node → node.body = .keywords k → task ∈ k.tasks c.value →
      task.reports = some tokens → Verdict registry task.demand false →
      Reports registry c (c.places.below tokens none).violation

variable {limit : Nat}

/-- What a call finds is reported there or found by the calls that it makes. -/
theorem nodeAnswer_finds {answers : Answers} (hd : answers.Decides registry) (c : Call)
    {Q : Violation → Prop} (hreport : ∀ e, Reports registry c e → Q e)
    (h : ∀ c', Calls registry c c' → Finds Q (answers c'.places c'.index c'.value)) :
    Finds Q (nodeAnswer registry limit answers c.places c.index c.value) := by
  intro out out' hok
  unfold nodeAnswer at hok
  split at hok
  · cases hok; exact fun e he => Or.inl he
  · cases hn : registry.get? c.index with
    | none => rw [hn] at hok; exact nomatch hok
    | some node =>
        rw [hn] at hok
        dsimp only at hok
        cases hb : node.body with
        | bool b =>
            rw [hb] at hok
            intro e he
            cases b with
            | true => cases hok; exact Or.inl he
            | false =>
                cases hok
                rcases Violations.mem_found_add he with he | rfl
                · exact Or.inl he
                · exact Or.inr (hreport _ (.never hn hb))
        | keywords k =>
            rw [hb] at hok
            refine Site.finds_performAll (fun task htask => ?_) out out' hok
            refine Site.finds_perform (site_decides hd limit c.places) (fun b hbranch => ?_)
              (fun target schema v heq => ?_) fun tokens htokens hverdict => ?_
            · exact h _ (.branch hn hb htask hbranch)
            · subst heq
              intro out out' hok
              cases schema with
              | none => exact nomatch hok
              | some j =>
                  simp only [site] at hok
                  split at hok
                  · cases hok
                  · exact h _ (.follow hn hb htask) out out' hok
            · exact hreport _ (.task hn hb htask htokens hverdict)

/-- **Every violation is reported at some call of the evaluation.** -/
theorem answerWithin_finds (registry : Registry) (limit steps : Nat) (c : Call) :
    Finds (fun e => ∃ c', Relation.ReflTransGen (Calls registry) c c' ∧ Reports registry c' e)
      (answerWithin registry limit steps c.places c.index c.value) := by
  -- Induction on the steps left: what is found is reported at this call, or found by a call that
  -- it makes, and then the run to the reporting call is one step longer.
  induction steps generalizing c with
  | zero =>
      -- no call that is made now answers, so nothing is found in one
      refine nodeAnswer_finds ?_ c (fun e he => ⟨c, .refl, he⟩) fun c' _ => ?_
      · intro s i v out out' _ hok; exact nomatch hok
      · intro out out' hok; exact nomatch hok
  | succ steps ih =>
      refine nodeAnswer_finds (answerWithin_decides registry limit steps) c
        (fun e he => ⟨c, .refl, he⟩) fun c' hcall out out' hok e he => ?_
      exact (ih c' out out' hok e he).imp id fun ⟨c'', hcalls, hreport⟩ =>
        ⟨c'', .head hcall hcalls, hreport⟩

end Eval

/-- The violations of an evaluation, by the calls at which they are reported. -/
theorem reported_of_evaluate {limit cap i : Nat} {frame : Frame} {v : Value} {es : List Violation}
    (h : registry.evaluate limit cap frame i v = .ok es) {e : Violation} (he : e ∈ es) :
    ∃ c, Relation.ReflTransGen (Eval.Calls registry) (.start frame i v) c ∧
      Eval.Reports registry c e := by
  obtain ⟨out, hout, rfl⟩ := evaluate_eq_ok.mp h
  -- an evaluation starts with an empty list
  have hfinds := Eval.answerWithin_finds registry limit _ (.start frame i v) _ out hout e he
  exact hfinds.resolve_left List.not_mem_nil

end JsonSchema
