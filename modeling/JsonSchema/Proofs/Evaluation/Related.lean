import JsonSchema.Proofs.Basic
import JsonSchema.Proofs.Evaluation.Task

/-!
# Related tasks

The same schema may be referred to in two ways, by an index and by its place in a document. Tasks
that are the same except for this are related, and they have the same answers, provided that the
branches have.
-/

namespace JsonSchema

variable {ι κ : Type}

/-- Two tasks are the same but for their branches, which are related. References are left out. -/
inductive Task.Rel (R : Branch ι → Branch κ → Prop) : Task ι → Task κ → Prop where
  /-- The same condition. -/
  | check (violated : Bool) (tokens : List String) :
      Rel R (.check violated tokens) (.check violated tokens)
  /-- Related branches evaluated for real. -/
  | descend {b : Branch ι} {c : Branch κ} : R b c → Rel R (.descend b) (.descend c)
  /-- The same choice between related branches. -/
  | choose {b : Branch ι} {c : Branch κ} {t e : Option (Branch ι)} {t' e' : Option (Branch κ)} :
      R b c → Option.Rel R t t' → Option.Rel R e e' →
      Rel R (.choose b t e) (.choose c t' e')
  /-- Trials on related branches that must not be passed. -/
  | refute {b : Branch ι} {c : Branch κ} (tokens : List String) : R b c →
      Rel R (.refute b tokens) (.refute c tokens)
  /-- Trials on related branches of which one must be passed. -/
  | some {bs : List (Branch ι)} {cs : List (Branch κ)} (tokens : List String) :
      List.Forall₂ R bs cs → Rel R (.some bs tokens) (.some cs tokens)
  /-- Trials on related branches of which exactly one must be passed. -/
  | one {bs : List (Branch ι)} {cs : List (Branch κ)} (tokens : List String) :
      List.Forall₂ R bs cs → Rel R (.one bs tokens) (.one cs tokens)

/-! ## What related tasks evaluate -/

/-- Each branch of a related task has its counterpart, and it follows no reference. -/
theorem Task.Rel.branches {R : Branch ι → Branch κ → Prop} {task : Task ι}
    {task' : Task κ} (h : Task.Rel R task task') :
    (∀ c ∈ task'.branches, ∃ b, R b c) ∧ ∀ target schema v, task' ≠ .follow target schema v := by
  have hoption : ∀ {o : Option (Branch ι)} {o' : Option (Branch κ)}, Option.Rel R o o' →
      ∀ c ∈ o'.toList, ∃ b, R b c := by
    intro o o' ho c hc
    cases ho with
    | none => exact absurd hc List.not_mem_nil
    | some hb => rw [List.mem_singleton.mp hc]; exact ⟨_, hb⟩
  refine ⟨fun c hc => ?_, fun target schema v heq => ?_⟩
  · cases h with
    | check violated tokens => exact absurd hc List.not_mem_nil
    | descend hb => rw [List.mem_singleton.mp hc]; exact ⟨_, hb⟩
    | choose hb ht he =>
        rcases List.mem_cons.mp hc with rfl | hc
        · exact ⟨_, hb⟩
        · rcases List.mem_append.mp hc with hc | hc
          · exact hoption ht c hc
          · exact hoption he c hc
    | refute tokens hb => rw [List.mem_singleton.mp hc]; exact ⟨_, hb⟩
    | some tokens hb => exact exists_of_mem_right hb hc
    | one tokens hb => exact exists_of_mem_right hb hc
  · cases h <;> exact nomatch heq

/-! ## Related tasks have the same answers -/

namespace Site

variable {R : Branch ι → Branch κ → Prop} {site : Site ι} {site' : Site κ}

/-- The sites have the same violations, and related branches have the same answers. -/
structure Agrees (R : Branch ι → Branch κ → Prop) (site : Site ι) (site' : Site κ) : Prop where
  /-- Violations are the same. -/
  violation : ∀ tokens, site.violation tokens = site'.violation tokens
  /-- Related branches have the same answers. -/
  evaluate : ∀ {b c}, R b c → ∀ out, site.evaluate b out = site'.evaluate c out

theorem Agrees.reportIf (h : Agrees R site site') (violated : Bool) (tokens : List String)
    (out : Violations) :
    site.reportIf violated tokens out = site'.reportIf violated tokens out := by
  unfold Site.reportIf
  rw [h.violation]

theorem Agrees.passes (h : Agrees R site site') {b : Branch ι} {c : Branch κ}
    (hb : R b c) : site.passes b = site'.passes c := by
  unfold Site.passes
  rw [h.evaluate hb]

theorem Agrees.somePasses (h : Agrees R site site') {bs : List (Branch ι)} {cs : List (Branch κ)}
    (hb : List.Forall₂ R bs cs) : site.somePasses bs = site'.somePasses cs := by
  induction hb with
  | nil => rfl
  | cons hb _ ih => rw [Site.somePasses, Site.somePasses, h.passes hb, ih]

theorem Agrees.onePasses (h : Agrees R site site') {bs : List (Branch ι)} {cs : List (Branch κ)}
    (hb : List.Forall₂ R bs cs) : site.onePasses bs = site'.onePasses cs := by
  induction hb with
  | nil => rfl
  | cons hb hrest ih =>
      rw [Site.onePasses, Site.onePasses, h.passes hb, h.somePasses hrest, ih]

theorem Agrees.descendIf (h : Agrees R site site') {b : Option (Branch ι)} {c : Option (Branch κ)}
    (hb : Option.Rel R b c) (out : Violations) :
    site.descendIf b out = site'.descendIf c out := by
  cases hb with
  | none => rfl
  | some hb => exact h.evaluate hb out

theorem Agrees.perform (h : Agrees R site site') {task : Task ι} {task' : Task κ}
    (ht : Task.Rel R task task') (out : Violations) :
    site.perform task out = site'.perform task' out := by
  cases ht with
  | check violated tokens => exact congrArg Except.ok (h.reportIf violated tokens out)
  | descend hb => exact h.evaluate hb out
  | choose hb ht he =>
      simp only [Site.perform]
      rw [h.passes hb, h.descendIf ht, h.descendIf he]
  | refute tokens hb =>
      simp only [Site.perform]
      rw [h.passes hb]
      simp only [h.reportIf]
  | some tokens hb =>
      simp only [Site.perform]
      rw [h.somePasses hb]
      simp only [h.reportIf]
  | one tokens hb =>
      simp only [Site.perform]
      rw [h.onePasses hb]
      simp only [h.reportIf]

/-- Related tasks, performed in turn, have the same answer. -/
theorem Agrees.performAll (h : Agrees R site site') {tasks : List (Task ι)} {tasks' : List (Task κ)}
    (ht : List.Forall₂ (Task.Rel R) tasks tasks') (out : Violations) :
    site.performAll tasks out = site'.performAll tasks' out := by
  induction ht generalizing out with
  | nil => rfl
  | cons ht _ ih =>
      rw [performAll_cons, performAll_cons, h.perform ht]
      exact congrArg _ (funext ih)

end Site

end JsonSchema
