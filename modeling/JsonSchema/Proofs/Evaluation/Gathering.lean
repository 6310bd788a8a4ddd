import JsonSchema.Proofs.Evaluation.Places

/-!
# Evaluation only adds violations

Whatever is evaluated goes on from the list it is given: it never takes a violation back, and it
leaves the cap alone. Two facts about answers that are used with it stand here, too: a call is the
answer of its node, and a trial is passed when its own list stays empty.
-/

namespace JsonSchema

variable {ι : Type}

/-- The second list goes on where the first one ends. -/
def Violations.Continues (out out' : Violations) : Prop :=
  out.found <+: out'.found ∧ out'.cap = out.cap

/-- What is there already stays. -/
def Gathers (ev : Violations → Except EvalError Violations) : Prop :=
  ∀ out out', ev out = .ok out' → out.Continues out'

namespace Violations

theorem Continues.refl (out : Violations) : out.Continues out := ⟨List.prefix_refl _, rfl⟩

theorem Continues.trans {a b c : Violations} (h : a.Continues b) (h' : b.Continues c) :
    a.Continues c :=
  ⟨h.1.trans h'.1, h'.2.trans h.2⟩

theorem Continues.length_le {a b : Violations} (h : a.Continues b) :
    a.found.length ≤ b.found.length := h.1.length_le

theorem continues_add (out : Violations) (v : Violation) : out.Continues (out.add v) := by
  unfold add
  split
  · exact Continues.refl out
  · exact ⟨List.prefix_append _ _, rfl⟩

theorem isFull_iff (out : Violations) :
    out.isFull = true ↔ out.cap ≠ 0 ∧ out.cap ≤ out.found.length := by
  simp [isFull]

theorem not_isFull_iff (out : Violations) :
    ¬ out.isFull = true ↔ out.cap = 0 ∨ out.found.length < out.cap := by
  rw [isFull_iff]; omega

end Violations

namespace Site

/-- Everything that the site evaluates gathers. -/
structure Gathers (site : Site ι) : Prop where
  /-- Sub-schemas do. -/
  evaluate : ∀ b, JsonSchema.Gathers (site.evaluate b)
  /-- References do. -/
  follow : ∀ target schema v, JsonSchema.Gathers (site.follow target schema v)

variable {site : Site ι}

theorem continues_reportIf (site : Site ι) (violated : Bool) (tokens : List String)
    (out : Violations) : out.Continues (site.reportIf violated tokens out) := by
  unfold reportIf
  split
  · exact out.continues_add _
  · exact Violations.Continues.refl out

theorem Gathers.descendIf (h : site.Gathers) (b : Option (Branch ι)) :
    JsonSchema.Gathers (site.descendIf b) := by
  intro out out' hok
  cases b with
  | none => cases hok; exact Violations.Continues.refl out
  | some b => exact h.evaluate b out out' hok

theorem Gathers.perform (h : site.Gathers) (task : Task ι) :
    JsonSchema.Gathers (site.perform task) := by
  intro out out' hok
  cases task with
  | check violated tokens => cases hok; exact continues_reportIf site violated tokens out
  | descend b => exact h.evaluate b out out' hok
  | follow target schema v => exact h.follow target schema v out out' hok
  | choose condition onPass onFail =>
      obtain ⟨passed, _, hok⟩ := bind_eq_ok hok
      cases passed with
      | true => exact h.descendIf onPass out out' hok
      | false => exact h.descendIf onFail out out' hok
  | refute b tokens =>
      obtain ⟨passed, _, hok⟩ := bind_eq_ok hok
      cases hok; exact continues_reportIf site passed tokens out
  | some bs tokens =>
      obtain ⟨passed, _, hok⟩ := bind_eq_ok hok
      cases hok; exact continues_reportIf site (!passed) tokens out
  | one bs tokens =>
      obtain ⟨passed, _, hok⟩ := bind_eq_ok hok
      cases hok; exact continues_reportIf site (!passed) tokens out

theorem Gathers.performAll (h : site.Gathers) (tasks : List (Task ι)) :
    JsonSchema.Gathers (site.performAll tasks) := by
  induction tasks with
  | nil => intro out out' hok; cases hok; exact Violations.Continues.refl out
  | cons task rest ih =>
      intro out out' hok
      rw [performAll_cons] at hok
      obtain ⟨mid, hmid, hok⟩ := bind_eq_ok hok
      -- what the first task leaves is what the rest goes on from
      exact (h.perform task out mid hmid).trans (ih mid out' hok)

end Site

namespace Eval

/-- Every answer gathers. -/
def Answers.Gathers (answers : Answers) : Prop := ∀ s i v, JsonSchema.Gathers (answers s i v)

theorem site_gathers {answers : Answers} (h : answers.Gathers) (limit : Nat) (s : EvalStack) :
    (site limit answers s).Gathers where
  evaluate b := h _ b.schema b.value
  follow target schema v := by
    intro out out' hok
    cases schema with
    | none => cases hok
    | some index =>
        simp only [site] at hok
        split at hok
        · cases hok
        · exact h _ index v out out' hok

theorem nodeAnswer_gathers {answers : Answers} (h : answers.Gathers) (registry : Registry)
    (limit : Nat) : (nodeAnswer registry limit answers).Gathers := by
  intro s i v out out' hok
  unfold nodeAnswer at hok
  split at hok
  · cases hok; exact Violations.Continues.refl out
  · split at hok
    · exact nomatch hok
    · split at hok
      · cases hok; exact Violations.Continues.refl out
      · cases hok; exact out.continues_add _
      · exact (site_gathers h limit s).performAll _ out out' hok

/-- Evaluating a node only adds violations, and the cap stays. -/
theorem answerWithin_gathers (registry : Registry) (limit steps : Nat) :
    (answerWithin registry limit steps).Gathers := by
  induction steps with
  | zero =>
      refine nodeAnswer_gathers ?_ registry limit
      intro s i v out out' hok
      exact nomatch hok
  | succ steps ih => exact nodeAnswer_gathers ih registry limit

end Eval

/-! ## Trials and calls -/

theorem Site.passes_eq_ok {site : Site ι} {b : Branch ι} {passed : Bool} :
    site.passes b = .ok passed ↔
      ∃ out, site.evaluate b (.none 1) = .ok out ∧ out.isEmpty = passed := by
  unfold passes
  cases site.evaluate b (.none 1) with
  | error e => exact ⟨fun h => (nomatch h), fun ⟨_, h, _⟩ => (nomatch h)⟩
  | ok out =>
      refine ⟨fun h => ⟨out, rfl, Except.ok.inj h⟩, fun ⟨out', h, hp⟩ => ?_⟩
      cases h; exact congrArg Except.ok hp

/-- The call, by the answer of the node. -/
theorem evaluate_eq_ok {registry : Registry} {limit cap i : Nat} {frame : Frame} {v : Value}
    {es : List Violation} :
    registry.evaluate limit cap frame i v = .ok es ↔
      ∃ out, Eval.answerWithin registry limit (Eval.steps registry limit)
        (EvalStack.empty.pushFrame frame) i v (.none cap) = .ok out ∧ out.found = es := by
  rw [Registry.evaluate_eq]
  cases Eval.answerWithin registry limit (Eval.steps registry limit)
      (EvalStack.empty.pushFrame frame) i v (.none cap) with
  | error e => exact ⟨fun h => (nomatch h), fun ⟨_, h, _⟩ => (nomatch h)⟩
  | ok out =>
      refine ⟨fun h => ⟨out, rfl, Except.ok.inj h⟩, fun ⟨out', h, hes⟩ => ?_⟩
      cases h; exact congrArg Except.ok hes

end JsonSchema
