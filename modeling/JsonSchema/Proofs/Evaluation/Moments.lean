import JsonSchema.Proofs.Evaluation.Calls
import JsonSchema.Proofs.Evaluation.Children

/-!
# The moments of an evaluation

An evaluation is a nest of calls. At each call it has a list that violations are added to, and there
are other lists that wait: each belongs to a call that has put a branch on trial and will go on with
its own list when the trial is over. A `Moment` is a call with all these lists.

`Eval.Makes` says which moment leads to which other one. It is exact. The answer of a call depends
on the calls that it makes, and on nothing else; and a call fails if and only if it fails by itself
or one of the calls that it makes fails.
-/

namespace JsonSchema

variable {ι : Type}

namespace Site

/-! ## What performing tasks comes to -/

/-- Of trials that go on up to the first one that is passed, this one is held. -/
inductive HoldsSome (site : Site ι) : List (Branch ι) → Branch ι → Prop
  | here {b : Branch ι} {rest : List (Branch ι)} : HoldsSome site (b :: rest) b
  | later {b c : Branch ι} {rest : List (Branch ι)} : site.passes c = .ok false →
      HoldsSome site rest b → HoldsSome site (c :: rest) b

/-- Of trials that go on up to the second one that is passed, this one is held. -/
inductive HoldsOne (site : Site ι) : List (Branch ι) → Branch ι → Prop
  | here {b : Branch ι} {rest : List (Branch ι)} : HoldsOne site (b :: rest) b
  | later {b c : Branch ι} {rest : List (Branch ι)} : site.passes c = .ok false →
      HoldsOne site rest b → HoldsOne site (c :: rest) b
  | other {b c : Branch ι} {rest : List (Branch ι)} : site.passes c = .ok true →
      HoldsSome site rest b → HoldsOne site (c :: rest) b

/-- The task starts a branch, on trial (`true`) or for real. -/
inductive Starts (site : Site ι) : Task ι → Branch ι → Bool → Prop
  | descend (b : Branch ι) : Starts site (.descend b) b false
  | condition (b : Branch ι) (onPass onFail : Option (Branch ι)) :
      Starts site (.choose b onPass onFail) b true
  | onPass {b c : Branch ι} {onFail : Option (Branch ι)} : site.passes c = .ok true →
      Starts site (.choose c (some b) onFail) b false
  | onFail {b c : Branch ι} {onPass : Option (Branch ι)} : site.passes c = .ok false →
      Starts site (.choose c onPass (some b)) b false
  | refute (b : Branch ι) (tokens : List String) : Starts site (.refute b tokens) b true
  | some {bs : List (Branch ι)} {b : Branch ι} (tokens : List String) : site.HoldsSome bs b →
      Starts site (.some bs tokens) b true
  | one {bs : List (Branch ι)} {b : Branch ι} (tokens : List String) : site.HoldsOne bs b →
      Starts site (.one bs tokens) b true

/-- Performing tasks in turn comes to a task, with what has been found before it. -/
inductive ComesTo (site : Site ι) : List (Task ι) → Violations → Task ι → Violations → Prop
  | here {task : Task ι} {rest : List (Task ι)} {out : Violations} :
      ComesTo site (task :: rest) out task out
  | later {t task : Task ι} {rest : List (Task ι)} {out mid out' : Violations} :
      site.perform t out = .ok mid → ComesTo site rest mid task out' →
      ComesTo site (t :: rest) out task out'

/-- The list that a branch adds to: a trial has one of its own. -/
def listFor (trial : Bool) (out : Violations) : Violations := if trial then .none 1 else out

variable {site site' : Site ι} {e : EvalError}

theorem HoldsSome.mem {bs : List (Branch ι)} {b : Branch ι} (h : site.HoldsSome bs b) : b ∈ bs := by
  induction h with
  | here => exact List.mem_cons_self
  | later _ _ ih => exact List.mem_cons_of_mem _ ih

theorem HoldsOne.mem {bs : List (Branch ι)} {b : Branch ι} (h : site.HoldsOne bs b) : b ∈ bs := by
  induction h with
  | here => exact List.mem_cons_self
  | later _ _ ih => exact List.mem_cons_of_mem _ ih
  | other _ h => exact List.mem_cons_of_mem _ h.mem

theorem Starts.mem {task : Task ι} {b : Branch ι} {trial : Bool} (h : site.Starts task b trial) :
    b ∈ task.branches := by
  cases h with
  | descend => exact List.mem_cons_self
  | condition => exact List.mem_cons_self
  | onPass => simp [Task.branches]
  | onFail => simp [Task.branches]
  | refute => exact List.mem_cons_self
  | some _ h => exact h.mem
  | one _ h => exact h.mem

theorem ComesTo.mem {tasks : List (Task ι)} {task : Task ι} {out out' : Violations}
    (h : site.ComesTo tasks out task out') : task ∈ tasks := by
  induction h with
  | here => exact List.mem_cons_self
  | later _ _ ih => exact List.mem_cons_of_mem _ ih

/-! ## Failing -/

theorem passes_eq_error {b : Branch ι} :
    site.passes b = .error e ↔ site.evaluate b (.none 1) = .error e := by
  unfold passes
  cases site.evaluate b (.none 1) with
  | ok out => exact ⟨fun h => (nomatch h), fun h => (nomatch h)⟩
  | error e' => exact ⟨fun h => by cases h; rfl, fun h => by cases h; rfl⟩

/-- Trials fail if one that is held fails. -/
theorem somePasses_eq_error {bs : List (Branch ι)} :
    site.somePasses bs = .error e ↔ ∃ b, site.HoldsSome bs b ∧ site.passes b = .error e := by
  induction bs with
  | nil =>
      constructor
      · intro h
        cases h
      · rintro ⟨_, h, _⟩
        cases h
  | cons c rest ih =>
      constructor
      · intro h
        unfold somePasses at h
        rcases bind_eq_error h with h | ⟨passed, hc, h⟩
        · exact ⟨c, .here, h⟩
        · cases passed with
          | true => cases h
          | false =>
              obtain ⟨b, hb, he⟩ := ih.mp h
              exact ⟨b, .later hc hb, he⟩
      · rintro ⟨b, hb, he⟩
        unfold somePasses
        cases hb with
        | here => rw [he]; rfl
        | later hc hb => rw [hc]; exact ih.mpr ⟨b, hb, he⟩

theorem onePasses_eq_error {bs : List (Branch ι)} :
    site.onePasses bs = .error e ↔ ∃ b, site.HoldsOne bs b ∧ site.passes b = .error e := by
  induction bs with
  | nil =>
      constructor
      · intro h
        cases h
      · rintro ⟨_, h, _⟩
        cases h
  | cons c rest ih =>
      constructor
      · intro h
        unfold onePasses at h
        rcases bind_eq_error h with h | ⟨passed, hc, h⟩
        · exact ⟨c, .here, h⟩
        · cases passed with
          | true =>
              rcases bind_eq_error h with h | ⟨_, _, h⟩
              · obtain ⟨b, hb, he⟩ := somePasses_eq_error.mp h
                exact ⟨b, .other hc hb, he⟩
              · cases h
          | false =>
              obtain ⟨b, hb, he⟩ := ih.mp h
              exact ⟨b, .later hc hb, he⟩
      · rintro ⟨b, hb, he⟩
        unfold onePasses
        cases hb with
        | here => rw [he]; rfl
        | later hc hb => rw [hc]; exact ih.mpr ⟨b, hb, he⟩
        | other hc hb =>
            have hrest := somePasses_eq_error.mpr ⟨b, hb, he⟩
            rw [hc]
            show (site.somePasses rest >>= _) = _
            rw [hrest]
            rfl

/-- What is done with the outcome of a trial cannot fail. -/
theorem afterTrial_eq_error {trial : Except EvalError Bool} {f : Bool → Violations} :
    (trial >>= fun passed => Except.ok (f passed)) = .error e ↔ trial = .error e := by
  cases trial with
  | ok passed => exact ⟨fun h => (nomatch h), fun h => (nomatch h)⟩
  | error e' => exact ⟨fun h => by cases h; rfl, fun h => by cases h; rfl⟩

/-- **A task fails if and only if a branch that it starts fails.** -/
theorem perform_eq_error {task : Task ι} (hown : ∀ target schema v, task ≠ .follow target schema v)
    {out : Violations} : site.perform task out = .error e ↔
      ∃ b trial, site.Starts task b trial ∧ site.evaluate b (listFor trial out) = .error e := by
  cases task with
  | follow target schema v => exact absurd rfl (hown target schema v)
  | check violated tokens => exact ⟨fun h => (nomatch h), fun ⟨_, _, h, _⟩ => (nomatch h)⟩
  | descend b =>
      refine ⟨fun h => ⟨b, false, .descend b, h⟩, fun ⟨_, _, h, he⟩ => ?_⟩
      cases h
      exact he
  | refute b tokens =>
      refine afterTrial_eq_error.trans (passes_eq_error.trans ?_)
      refine ⟨fun h => ⟨b, true, .refute b tokens, h⟩, fun ⟨_, _, h, he⟩ => ?_⟩
      cases h
      exact he
  | some bs tokens =>
      refine afterTrial_eq_error.trans (somePasses_eq_error.trans ?_)
      refine ⟨fun ⟨b, hb, h⟩ => ⟨b, true, .some tokens hb, passes_eq_error.mp h⟩,
        fun ⟨b, _, h, he⟩ => ?_⟩
      cases h with
      | some _ hb => exact ⟨b, hb, passes_eq_error.mpr he⟩
  | one bs tokens =>
      refine afterTrial_eq_error.trans (onePasses_eq_error.trans ?_)
      refine ⟨fun ⟨b, hb, h⟩ => ⟨b, true, .one tokens hb, passes_eq_error.mp h⟩,
        fun ⟨b, _, h, he⟩ => ?_⟩
      cases h with
      | one _ hb => exact ⟨b, hb, passes_eq_error.mpr he⟩
  | choose c onPass onFail =>
      constructor
      · intro h
        rcases bind_eq_error h with h | ⟨passed, hc, h⟩
        · exact ⟨c, true, .condition c onPass onFail, passes_eq_error.mp h⟩
        · cases passed with
          | true =>
              cases onPass with
              | none => exact nomatch h
              | some b => exact ⟨b, false, .onPass hc, h⟩
          | false =>
              cases onFail with
              | none => exact nomatch h
              | some b => exact ⟨b, false, .onFail hc, h⟩
      · rintro ⟨b, trial, h, he⟩
        unfold perform
        dsimp only
        cases h with
        | condition => rw [passes_eq_error.mpr he]; rfl
        | onPass hc => rw [hc]; exact he
        | onFail hc => rw [hc]; exact he

theorem performAll_eq_error {tasks : List (Task ι)} {out : Violations} :
    site.performAll tasks out = .error e ↔
      ∃ task mid, site.ComesTo tasks out task mid ∧ site.perform task mid = .error e := by
  induction tasks generalizing out with
  | nil => exact ⟨fun h => (nomatch h), fun ⟨_, _, h, _⟩ => (nomatch h)⟩
  | cons t rest ih =>
      rw [performAll_cons]
      constructor
      · intro h
        rcases bind_eq_error h with h | ⟨mid, hmid, h⟩
        · exact ⟨t, out, .here, h⟩
        · obtain ⟨task, mid', hcomes, he⟩ := ih.mp h
          exact ⟨task, mid', .later hmid hcomes, he⟩
      · rintro ⟨task, mid, hcomes, he⟩
        cases hcomes with
        | here => rw [he]; rfl
        | later hmid hcomes => rw [hmid]; exact ih.mpr ⟨task, mid, hcomes, he⟩

/-! ## Two sites that agree on what is started -/

theorem somePasses_congr_held {bs : List (Branch ι)}
    (h : ∀ b, site.HoldsSome bs b → site.passes b = site'.passes b) :
    site.somePasses bs = site'.somePasses bs := by
  induction bs with
  | nil => rfl
  | cons c rest ih =>
      unfold somePasses
      rw [← h c .here]
      cases hc : site.passes c with
      | error e => rfl
      | ok passed =>
          cases passed with
          | true => rfl
          | false => exact ih fun b hb => h b (.later hc hb)

theorem onePasses_congr_held {bs : List (Branch ι)}
    (h : ∀ b, site.HoldsOne bs b → site.passes b = site'.passes b) :
    site.onePasses bs = site'.onePasses bs := by
  induction bs with
  | nil => rfl
  | cons c rest ih =>
      unfold onePasses
      rw [← h c .here]
      cases hc : site.passes c with
      | error e => rfl
      | ok passed =>
          cases passed with
          | true =>
              have hrest := somePasses_congr_held fun b hb => h b (.other hc hb)
              show (site.somePasses rest >>= _) = (site'.somePasses rest >>= _)
              rw [hrest]
          | false => exact ih fun b hb => h b (.later hc hb)

/-- The answer of a task depends on the branches that it starts. -/
theorem perform_congr_started {task : Task ι}
    (hown : ∀ target schema v, task ≠ .follow target schema v)
    (hv : site.violation = site'.violation) {out : Violations}
    (h : ∀ b trial, site.Starts task b trial →
      site.evaluate b (listFor trial out) = site'.evaluate b (listFor trial out)) :
    site.perform task out = site'.perform task out := by
  have hreport : site.reportIf = site'.reportIf := by
    unfold reportIf
    rw [hv]
  have hpasses : ∀ b, site.Starts task b true → site.passes b = site'.passes b := by
    intro b hb
    have heq : site.evaluate b (.none 1) = site'.evaluate b (.none 1) := h b true hb
    unfold passes
    rw [heq]
  cases task with
  | follow target schema v => exact absurd rfl (hown target schema v)
  | check violated tokens => simp only [perform, hreport]
  | descend b => exact h b false (.descend b)
  | refute b tokens => simp only [perform, hreport, hpasses b (.refute b tokens)]
  | some bs tokens =>
      have hsome := somePasses_congr_held fun b hb => hpasses b (.some tokens hb)
      simp only [perform, hreport, hsome]
  | one bs tokens =>
      have hone := onePasses_congr_held fun b hb => hpasses b (.one tokens hb)
      simp only [perform, hreport, hone]
  | choose c onPass onFail =>
      unfold perform
      dsimp only
      rw [← hpasses c (.condition c onPass onFail)]
      cases hc : site.passes c with
      | error e => rfl
      | ok passed =>
          cases passed with
          | true =>
              cases onPass with
              | none => rfl
              | some b => exact h b false (.onPass hc)
          | false =>
              cases onFail with
              | none => rfl
              | some b => exact h b false (.onFail hc)

theorem performAll_congr_comes {tasks : List (Task ι)} {out : Violations}
    (h : ∀ task mid, site.ComesTo tasks out task mid →
      site.perform task mid = site'.perform task mid) :
    site.performAll tasks out = site'.performAll tasks out := by
  induction tasks generalizing out with
  | nil => rfl
  | cons t rest ih =>
      rw [performAll_cons, performAll_cons, ← h t out .here]
      cases ht : site.perform t out with
      | error e => rfl
      | ok mid => exact ih fun task mid' hcomes => h task mid' (.later ht hcomes)

end Site

namespace Keywords

variable {k : Keywords} {v : Value} {site : Site Nat}

/-- The reference comes first, so nothing has been found when it is followed. -/
theorem follow_of_comesTo {target : Target} {schema : Option Nat} {w : Value}
    {out out' : Violations} (h : site.ComesTo (k.tasks v) out (.follow target schema w) out') :
    ∃ ref, k.ref = some ref ∧ target = ref.target ∧ schema = ref.resolved ∧ w = v ∧ out' = out := by
  have hown : .follow target schema w ∉ k.ownTasks v :=
    fun hmem => (own_ownTasks k v _ hmem).follows target schema w rfl
  unfold tasks refTasks at h
  cases hr : k.ref with
  | none => rw [hr] at h; exact absurd h.mem hown
  | some ref =>
      rw [hr] at h
      cases h with
      | here => exact ⟨ref, rfl, rfl, rfl, rfl, rfl⟩
      | later _ h => exact absurd h.mem hown

theorem comesTo_follow {ref : Reference} (h : k.ref = some ref) (out : Violations) :
    site.ComesTo (k.tasks v) out (.follow ref.target ref.resolved v) out := by
  unfold tasks refTasks
  rw [h]
  exact .here

end Keywords

namespace Eval

/-! ## Moments -/

/-- A call, the list that it adds to, and the lists that wait for the trials it is part of, the
innermost one first. -/
structure Moment where
  call : Call
  out : Violations
  waiting : List Violations

/-- The moment at which an evaluation starts. -/
def Moment.start (frame : Frame) (index : Nat) (v : Value) (cap : Nat) : Moment :=
  ⟨.start frame index v, .none cap, []⟩

/-- The answer of a moment. -/
def Moment.answer (m : Moment) (answers : Answers) : Except EvalError Violations :=
  answers m.call.places m.call.index m.call.value m.out

/-- The keywords of a node are evaluated at the moment. -/
structure Moment.Opens (registry : Registry) (m : Moment) (k : Keywords) : Prop where
  room : ¬ m.out.isFull = true
  node : ∃ node, registry.get? m.call.index = some node ∧ node.body = .keywords k

/-- The moment at which a branch is started. If it is on trial, the list of the task waits. -/
def Moment.started (m : Moment) (b : Branch Nat) (out : Violations) (trial : Bool) : Moment where
  call := ⟨m.call.places.below b.tokens b.token, b.schema, b.value⟩
  out := Site.listFor trial out
  waiting := if trial then out :: m.waiting else m.waiting

/-- The moment at which a reference has been followed. -/
def Moment.followed (m : Moment) (target : Target) (index : Nat) : Moment :=
  { m with call :=
    ⟨m.call.places.pushFrame ⟨target.base.text, target.pointer.tokens⟩, index, m.call.value⟩ }

/-- One moment makes another. -/
inductive Makes (registry : Registry) (limit : Nat) (answers : Answers) (m : Moment) : Moment → Prop
  | branch {k : Keywords} {task : Task Nat} {out : Violations} {b : Branch Nat} {trial : Bool} :
      m.Opens registry k →
      (site limit answers m.call.places).ComesTo (k.tasks m.call.value) m.out task out →
      (site limit answers m.call.places).Starts task b trial →
      Makes registry limit answers m (m.started b out trial)
  | follow {k : Keywords} {ref : Reference} {j : Nat} : m.Opens registry k → k.ref = some ref →
      ref.resolved = some j → ¬ limit ≤ m.call.places.depth →
      Makes registry limit answers m (m.followed ref.target j)

/-- A moment fails by itself. -/
inductive Fails (registry : Registry) (limit : Nat) (m : Moment) : EvalError → Prop
  | noNode : ¬ m.out.isFull = true → registry.get? m.call.index = none →
      Fails registry limit m (.noNode m.call.index)
  | unlinked {k : Keywords} {ref : Reference} : m.Opens registry k → k.ref = some ref →
      ref.resolved = none → Fails registry limit m (.unlinked ref.target.key)
  | overflow {k : Keywords} {ref : Reference} {j : Nat} : m.Opens registry k → k.ref = some ref →
      ref.resolved = some j → limit ≤ m.call.places.depth →
      Fails registry limit m (.stackOverflow limit)

variable {registry : Registry} {limit : Nat} {answers answers' : Answers} {m : Moment}

theorem Moment.Opens.answer {k : Keywords} (h : m.Opens registry k) :
    m.answer (nodeAnswer registry limit answers) =
      (site limit answers m.call.places).performAll (k.tasks m.call.value) m.out := by
  obtain ⟨hroom, node, hnode, hbody⟩ := h
  unfold Moment.answer nodeAnswer
  rw [if_neg hroom, hnode]
  dsimp only
  rw [hbody]

/-- Unless keywords are evaluated, the answer depends on nothing else. -/
theorem Moment.opens_or (registry : Registry) (m : Moment) :
    (∃ k, m.Opens registry k) ∨ ∃ answer, ∀ limit answers,
      m.answer (nodeAnswer registry limit answers) = answer := by
  by_cases hfull : m.out.isFull = true
  · refine Or.inr ⟨.ok m.out, fun limit answers => ?_⟩
    unfold Moment.answer nodeAnswer
    rw [if_pos hfull]
  · cases hn : registry.get? m.call.index with
    | none =>
        refine Or.inr ⟨.error (.noNode m.call.index), fun limit answers => ?_⟩
        unfold Moment.answer nodeAnswer
        rw [if_neg hfull, hn]
    | some node =>
        cases hb : node.body with
        | keywords k => exact Or.inl ⟨k, hfull, node, hn, hb⟩
        | bool b =>
            refine Or.inr ⟨if b then .ok m.out else .ok (m.out.add m.call.places.violation),
              fun limit answers => ?_⟩
            unfold Moment.answer nodeAnswer
            rw [if_neg hfull, hn]
            cases b <;> simp only [hb] <;> rfl

/-- **The moments that a moment makes are all that its answer depends on.** -/
theorem nodeAnswer_congr_made
    (h : ∀ m', Makes registry limit answers m m' → m'.answer answers = m'.answer answers') :
    m.answer (nodeAnswer registry limit answers) =
      m.answer (nodeAnswer registry limit answers') := by
  rcases m.opens_or registry with ⟨k, hopens⟩ | ⟨answer, hanswer⟩
  · rw [hopens.answer, hopens.answer]
    refine Site.performAll_congr_comes fun task mid hcomes => ?_
    rcases Keywords.mem_tasks hcomes.mem with ⟨ref, href, rfl⟩ | htask
    · -- the reference, whose list is the one of the call
      obtain ⟨_, _, _, _, _, rfl⟩ := Keywords.follow_of_comesTo hcomes
      show (site limit answers _).follow _ _ _ _ = (site limit answers' _).follow _ _ _ _
      cases hj : ref.resolved with
      | none => rfl
      | some j =>
          simp only [site]
          split
          · rfl
          · rename_i hd
            exact h _ (.follow hopens href hj hd)
    · have hviolation : (site limit answers m.call.places).violation =
          (site limit answers' m.call.places).violation := rfl
      refine Site.perform_congr_started (Keywords.own_ownTasks k _ _ htask).follows hviolation ?_
      intro b trial hstarts
      exact h _ (.branch hopens hcomes hstarts)
  · rw [hanswer, hanswer]

/-- **A moment fails if and only if it fails by itself or makes one that fails.** -/
theorem nodeAnswer_eq_error {e : EvalError} :
    m.answer (nodeAnswer registry limit answers) = .error e ↔
      Fails registry limit m e ∨
        ∃ m', Makes registry limit answers m m' ∧ m'.answer answers = .error e := by
  constructor
  · intro h
    by_cases hopens : ∃ k, m.Opens registry k
    · obtain ⟨k, hopens⟩ := hopens
      rw [hopens.answer] at h
      obtain ⟨task, mid, hcomes, he⟩ := Site.performAll_eq_error.mp h
      rcases Keywords.mem_tasks hcomes.mem with ⟨ref, href, rfl⟩ | htask
      · obtain ⟨_, _, _, _, _, rfl⟩ := Keywords.follow_of_comesTo hcomes
        simp only [Site.perform, site] at he
        cases hj : ref.resolved with
        | none => rw [hj] at he; cases he; exact Or.inl (.unlinked hopens href hj)
        | some j =>
            rw [hj] at he
            dsimp only at he
            split at he
            · rename_i hd
              cases he
              exact Or.inl (.overflow hopens href hj hd)
            · rename_i hd
              exact Or.inr ⟨_, .follow hopens href hj hd, he⟩
      · have hown := (Keywords.own_ownTasks k _ _ htask).follows
        obtain ⟨b, trial, hstarts, he⟩ := (Site.perform_eq_error hown).mp he
        exact Or.inr ⟨_, .branch hopens hcomes hstarts, he⟩
    · -- without keywords only a node that is not there makes an evaluation fail
      unfold Moment.answer nodeAnswer at h
      split at h
      · cases h
      · rename_i hfull
        split at h
        · rename_i hn
          cases h
          exact Or.inl (.noNode hfull hn)
        · rename_i node hn
          split at h
          · cases h
          · cases h
          · rename_i k hb
            exact absurd ⟨k, hfull, node, hn, hb⟩ hopens
  · intro h
    rcases h with h | ⟨m', hmakes, he⟩
    · cases h with
      | noNode hfull hn =>
          unfold Moment.answer nodeAnswer
          rw [if_neg hfull, hn]
      | unlinked hopens href hj =>
          rw [hopens.answer]
          refine Site.performAll_eq_error.mpr ⟨_, _, Keywords.comesTo_follow href _, ?_⟩
          simp only [Site.perform, site, hj]
      | overflow hopens href hj hd =>
          rw [hopens.answer]
          refine Site.performAll_eq_error.mpr ⟨_, _, Keywords.comesTo_follow href _, ?_⟩
          simp only [Site.perform, site, hj, if_pos hd]
    · cases hmakes with
      | branch hopens hcomes hstarts =>
          rw [hopens.answer]
          refine Site.performAll_eq_error.mpr ⟨_, _, hcomes, ?_⟩
          refine (Site.perform_eq_error ?_).mpr ⟨_, _, hstarts, he⟩
          intro target schema v heq
          subst heq
          cases hstarts
      | follow hopens href hj hd =>
          rw [hopens.answer]
          refine Site.performAll_eq_error.mpr ⟨_, _, Keywords.comesTo_follow href _, ?_⟩
          simp only [Site.perform, site, hj, if_neg hd]
          exact he

end Eval

end JsonSchema
