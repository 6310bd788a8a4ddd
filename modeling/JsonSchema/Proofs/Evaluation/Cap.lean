import JsonSchema.Proofs.Evaluation.Gathering
import JsonSchema.Validator

/-!
# The cap on violations

An evaluation with a cap of `k` finds the first `k` violations that the evaluation without a cap
finds. The two are run side by side: as long as the capped list is not full, both lists are the
same, and once it is full, it stays as it is while the other one grows.

The cap is looked at in many places, but trials are not subject to it: they gather apart. So both
evaluations hold the same trials with the same outcome, and take the same branches.
-/

namespace JsonSchema

variable {ι : Type}

/-! ## A run with a cap beside the run without -/

/-- The list with the cap holds what fits of the list without. -/
structure Violations.Capped (k : Nat) (c u : Violations) : Prop where
  /-- The first has the cap. -/
  cap : c.cap = k
  /-- The second has none. -/
  free : u.cap = 0
  /-- The first begins the second. -/
  found : c.found = u.found.take k

/-- The two runs correspond, whichever of them has an answer. -/
structure CapIndependent (k : Nat) (ev : Violations → Except EvalError Violations) : Prop where
  /-- If the run without a cap has an answer, so has the other one. -/
  shorten : ∀ {c u u'}, Violations.Capped k c u → ev u = .ok u' →
    ∃ c', ev c = .ok c' ∧ Violations.Capped k c' u'
  /-- If the run with the cap has an answer below the cap, so has the other one. -/
  extend : ∀ {c u c'}, Violations.Capped k c u → ev c = .ok c' → c'.found.length < k →
    ∃ u', ev u = .ok u' ∧ Violations.Capped k c' u'

namespace Violations

variable {k : Nat} {c u u' : Violations}

theorem Capped.length_le (h : Capped k c u) : c.found.length ≤ k := by
  rw [h.found, List.length_take]; omega

/-- Below the cap the lists are the same. -/
theorem Capped.eq_of_lt (h : Capped k c u) (hlt : c.found.length < k) : c.found = u.found := by
  have hlen := congrArg List.length h.found
  rw [List.length_take] at hlen
  rw [h.found, List.take_of_length_le (by omega)]

/-- Once the capped list is full, the other one may grow. -/
theorem Capped.grow (h : Capped k c u) (hfull : c.found.length = k) (hu : u.Continues u') :
    Capped k c u' := by
  obtain ⟨⟨rest, hrest⟩, hcap⟩ := hu
  refine ⟨h.cap, hcap.trans h.free, ?_⟩
  have hlen := congrArg List.length h.found
  rw [List.length_take] at hlen
  -- the first `k` are there already, so nothing that follows is among them
  rw [h.found, ← hrest, List.take_append_of_le_length (by omega)]

theorem Capped.add (hk : k ≠ 0) (h : Capped k c u) (v : Violation) :
    Capped k (c.add v) (u.add v) := by
  have hu : u.isFull = false := by simp [isFull, h.free]
  by_cases hfull : c.isFull = true
  · have hlen := ((isFull_iff c).mp hfull).2
    rw [h.cap] at hlen
    rw [Violations.add, if_pos hfull]
    -- the capped list is full and stays as it is
    exact h.grow (Nat.le_antisymm h.length_le hlen) (u.continues_add v)
  · have hlt : c.found.length < k := by
      rcases (not_isFull_iff c).mp hfull with h0 | hlt
      · exact absurd (h.cap.symm.trans h0) hk
      · rwa [h.cap] at hlt
    -- below the cap both lists are the same, and both get the violation
    rw [Violations.add, if_neg hfull, Violations.add, hu]
    refine ⟨h.cap, h.free, ?_⟩
    have heq := h.eq_of_lt hlt
    have hlen : (u.found ++ [v]).length ≤ k := by rw [← heq, List.length_append]; exact hlt
    show c.found ++ [v] = (u.found ++ [v]).take k
    rw [List.take_of_length_le hlen, heq]

end Violations

theorem capIndependent_ok {k : Nat} : CapIndependent k (fun out => .ok out) where
  shorten h hok := by cases hok; exact ⟨_, rfl, h⟩
  extend h hok _ := by cases hok; exact ⟨_, rfl, h⟩

theorem capIndependent_error {k : Nat} (e : EvalError) :
    CapIndependent k (fun _ => .error e) where
  shorten _ hok := nomatch hok
  extend _ hok _ := nomatch hok

/-- One evaluation after another. The second must not take back violations: the cap is not reached
in between if it is not reached at the end. -/
theorem CapIndependent.bind {k : Nat} {ev ev' : Violations → Except EvalError Violations}
    (h : CapIndependent k ev) (h' : CapIndependent k ev') (hg : Gathers ev') :
    CapIndependent k (fun out => ev out >>= ev') where
  shorten hc hok := by
    obtain ⟨mid, hmid, hok⟩ := bind_eq_ok hok
    obtain ⟨c₁, hc₁, hcap₁⟩ := h.shorten hc hmid
    obtain ⟨c₂, hc₂, hcap₂⟩ := h'.shorten hcap₁ hok
    exact ⟨c₂, by rw [hc₁]; exact hc₂, hcap₂⟩
  extend hc hok hlt := by
    obtain ⟨mid, hmid, hok⟩ := bind_eq_ok hok
    -- the list was not longer in between, so the first evaluation stayed below the cap, too
    have hmidlt := Nat.lt_of_le_of_lt (hg mid _ hok).length_le hlt
    obtain ⟨u₁, hu₁, hcap₁⟩ := h.extend hc hmid hmidlt
    obtain ⟨u₂, hu₂, hcap₂⟩ := h'.extend hcap₁ hok hlt
    exact ⟨u₂, by rw [hu₁]; exact hu₂, hcap₂⟩

namespace Site

/-- Everything that the site evaluates corresponds. -/
structure CapIndependent (k : Nat) (site : Site ι) : Prop where
  /-- Sub-schemas do. -/
  evaluate : ∀ b, JsonSchema.CapIndependent k (site.evaluate b)
  /-- References do. -/
  follow : ∀ target schema v, JsonSchema.CapIndependent k (site.follow target schema v)

variable {k : Nat} {site : Site ι}

theorem capIndependent_reportIf (hk : k ≠ 0) (site : Site ι) (violated : Bool)
    (tokens : List String) :
    JsonSchema.CapIndependent k (fun out => .ok (site.reportIf violated tokens out)) := by
  cases violated with
  | false => exact capIndependent_ok
  | true =>
      refine ⟨fun h hok => ?_, fun h hok _ => ?_⟩
      · cases hok; exact ⟨_, rfl, h.add hk _⟩
      · cases hok; exact ⟨_, rfl, h.add hk _⟩

theorem CapIndependent.descendIf (h : CapIndependent k site) (b : Option (Branch ι)) :
    JsonSchema.CapIndependent k (site.descendIf b) := by
  cases b with
  | none => exact capIndependent_ok
  | some b => exact h.evaluate b

/-- A trial is the same in both runs, so only what follows it matters. -/
theorem capIndependent_afterTrial {trial : Except EvalError Bool}
    {next : Bool → Violations → Except EvalError Violations}
    (h : ∀ passed, JsonSchema.CapIndependent k (next passed)) :
    JsonSchema.CapIndependent k (fun out => trial >>= fun passed => next passed out) := by
  cases trial with
  | error e => exact capIndependent_error e
  | ok passed => exact h passed

theorem CapIndependent.perform (hk : k ≠ 0) (h : CapIndependent k site) (task : Task ι) :
    JsonSchema.CapIndependent k (site.perform task) := by
  cases task with
  | check violated tokens => exact capIndependent_reportIf hk site violated tokens
  | descend b => exact h.evaluate b
  | follow target schema v => exact h.follow target schema v
  | choose condition onPass onFail =>
      -- the trial has the same outcome in both runs, so both take the same branch
      refine capIndependent_afterTrial fun passed => ?_
      cases passed with
      | true => exact h.descendIf onPass
      | false => exact h.descendIf onFail
  | refute b tokens =>
      exact capIndependent_afterTrial fun passed => capIndependent_reportIf hk site passed tokens
  | some bs tokens =>
      exact capIndependent_afterTrial fun passed =>
        capIndependent_reportIf hk site (!passed) tokens
  | one bs tokens =>
      exact capIndependent_afterTrial fun passed =>
        capIndependent_reportIf hk site (!passed) tokens

theorem CapIndependent.performAll (hk : k ≠ 0) (h : CapIndependent k site) (hg : site.Gathers)
    (tasks : List (Task ι)) : JsonSchema.CapIndependent k (site.performAll tasks) := by
  induction tasks with
  | nil => exact capIndependent_ok
  | cons task rest ih => exact (h.perform hk task).bind ih (hg.performAll rest)

end Site

namespace Eval

variable {k : Nat}

/-- Every answer corresponds. -/
def Answers.CapIndependent (k : Nat) (answers : Answers) : Prop :=
  ∀ s i v, JsonSchema.CapIndependent k (answers s i v)

theorem site_capIndependent {answers : Answers} (h : answers.CapIndependent k) (limit : Nat)
    (s : EvalStack) : Site.CapIndependent k (site limit answers s) where
  evaluate b := h _ b.schema b.value
  follow target schema v := by
    cases schema with
    | none => exact capIndependent_error _
    | some index =>
        by_cases hd : limit ≤ s.depth
        · simp only [site, if_pos hd]; exact capIndependent_error _
        · simp only [site, if_neg hd]; exact h _ index v

/-- The node itself, when neither list is full. -/
theorem found_capIndependent {answers : Answers} (hk : k ≠ 0) (h : answers.CapIndependent k)
    (hg : answers.Gathers) (limit : Nat) (s : EvalStack) (i : Nat) (v : Value)
    (found : Option Node) :
    JsonSchema.CapIndependent k (fun out =>
      match found with
      | none => .error (.noNode i)
      | some node =>
        match node.body with
        | .bool true => .ok out
        | .bool false => .ok (out.add s.violation)
        | .keywords k => (site limit answers s).performAll (k.tasks v) out) := by
  cases found with
  | none => exact capIndependent_error _
  | some node =>
      obtain ⟨uri, body⟩ := node
      cases body with
      | bool b =>
          cases b with
          | true => exact capIndependent_ok
          | false =>
              refine ⟨fun h hok => ?_, fun h hok _ => ?_⟩
              · cases hok; exact ⟨_, rfl, h.add hk _⟩
              · cases hok; exact ⟨_, rfl, h.add hk _⟩
      | keywords kw =>
          exact (site_capIndependent h limit s).performAll hk (site_gathers hg limit s) (kw.tasks v)

theorem nodeAnswer_capIndependent {answers : Answers} (hk : k ≠ 0)
    (h : answers.CapIndependent k) (hg : answers.Gathers) (registry : Registry) (limit : Nat) :
    (nodeAnswer registry limit answers).CapIndependent k := by
  intro s i v
  have hbody := found_capIndependent hk h hg limit s i v (registry.get? i)
  refine ⟨fun {c u u'} hc hok => ?_, fun {c u c'} hc hok hlt => ?_⟩
  · by_cases hfull : c.isFull = true
    · -- the capped run stops here, and the other one goes on
      have hu : u.Continues u' := nodeAnswer_gathers hg registry limit s i v u u' hok
      have hlen := ((Violations.isFull_iff c).mp hfull).2
      rw [hc.cap] at hlen
      refine ⟨c, ?_, hc.grow (Nat.le_antisymm hc.length_le hlen) hu⟩
      unfold nodeAnswer; rw [if_pos hfull]
    · have hu : ¬ u.isFull = true := by rw [Violations.not_isFull_iff]; exact Or.inl hc.free
      unfold nodeAnswer at hok ⊢
      rw [if_neg hu] at hok
      rw [if_neg hfull]
      exact hbody.shorten hc hok
  · have hfull : ¬ c.isFull = true := by
      intro hfull
      have hlen := ((Violations.isFull_iff c).mp hfull).2
      -- a full list would have stayed full, but it ends below the cap
      have hle := (nodeAnswer_gathers hg registry limit s i v c c' hok).length_le
      rw [hc.cap] at hlen
      omega
    have hu : ¬ u.isFull = true := by rw [Violations.not_isFull_iff]; exact Or.inl hc.free
    unfold nodeAnswer at hok ⊢
    rw [if_neg hfull] at hok
    rw [if_neg hu]
    exact hbody.extend hc hok hlt

theorem answerWithin_capIndependent (hk : k ≠ 0) (registry : Registry) (limit steps : Nat) :
    (answerWithin registry limit steps).CapIndependent k := by
  induction steps with
  | zero =>
      refine nodeAnswer_capIndependent hk (fun s i v => capIndependent_error _) ?_ registry limit
      intro s i v out out' hok
      exact nomatch hok
  | succ steps ih =>
      exact nodeAnswer_capIndependent hk ih (answerWithin_gathers registry limit steps) registry
        limit

end Eval

/-! ## What the cap means for a call -/

theorem Violations.capped_none (k : Nat) : Capped k (.none k) (.none 0) :=
  ⟨rfl, rfl, by simp [none]⟩

section

variable {k limit i : Nat} {registry : Registry} {frame : Frame} {v : Value}

/-- The call with a cap finds the first violations of the call without. -/
theorem evaluate_take (hk : k ≠ 0) {es : List Violation}
    (h : registry.evaluate limit 0 frame i v = .ok es) :
    registry.evaluate limit k frame i v = .ok (es.take k) := by
  obtain ⟨u, hu, rfl⟩ := evaluate_eq_ok.mp h
  obtain ⟨c, hc, hcap⟩ := (Eval.answerWithin_capIndependent hk registry limit _ _ i v).shorten
    (Violations.capped_none k) hu
  exact evaluate_eq_ok.mpr ⟨c, hc, hcap.found⟩

/-- A call that stays below its cap finds all violations. -/
theorem evaluate_of_lt (hk : k ≠ 0) {es : List Violation}
    (h : registry.evaluate limit k frame i v = .ok es) (hlt : es.length < k) :
    registry.evaluate limit 0 frame i v = .ok es := by
  obtain ⟨c, hc, rfl⟩ := evaluate_eq_ok.mp h
  obtain ⟨u, hu, hcap⟩ := (Eval.answerWithin_capIndependent hk registry limit _ _ i v).extend
    (Violations.capped_none k) hc hlt
  exact evaluate_eq_ok.mpr ⟨u, hu, (hcap.eq_of_lt hlt).symm⟩

/-- Whether anything is found does not depend on the cap. -/
theorem evaluate_nil_iff (hk : k ≠ 0) :
    registry.evaluate limit k frame i v = .ok [] ↔
      registry.evaluate limit 0 frame i v = .ok [] := by
  refine ⟨fun h => evaluate_of_lt hk h (Nat.pos_of_ne_zero hk), fun h => ?_⟩
  have htake := evaluate_take hk h
  rwa [List.take_nil] at htake

theorem evaluate_nil_iff_nil (k k' : Nat) :
    registry.evaluate limit k frame i v = .ok [] ↔
      registry.evaluate limit k' frame i v = .ok [] := by
  have hzero : ∀ k, registry.evaluate limit k frame i v = .ok [] ↔
      registry.evaluate limit 0 frame i v = .ok [] := by
    intro k
    by_cases hk : k = 0
    · rw [hk]
    · exact evaluate_nil_iff hk
  rw [hzero k, hzero k']

end

/-- A trial is passed when the evaluation without a cap would find nothing, and fails when it would
find something. -/
theorem trial_of_capIndependent {ev : Violations → Except EvalError Violations}
    (h : CapIndependent 1 ev) :
    ((∃ c, ev (.none 1) = .ok c ∧ c.found = []) ↔ ∃ u, ev (.none 0) = .ok u ∧ u.found = []) ∧
      ∀ u, ev (.none 0) = .ok u → u.found ≠ [] → ∃ c, ev (.none 1) = .ok c ∧ c.found ≠ [] := by
  have hnone := Violations.capped_none 1
  refine ⟨⟨fun ⟨c, hc, hnil⟩ => ?_, fun ⟨u, hu, hnil⟩ => ?_⟩, fun u hu hne => ?_⟩
  · have hlt : c.found.length < 1 := by rw [hnil]; exact Nat.one_pos
    obtain ⟨u, hu, hcap⟩ := h.extend hnone hc hlt
    exact ⟨u, hu, (hcap.eq_of_lt hlt).symm.trans hnil⟩
  · obtain ⟨c, hc, hcap⟩ := h.shorten hnone hu
    exact ⟨c, hc, by rw [hcap.found, hnil, List.take_nil]⟩
  · obtain ⟨c, hc, hcap⟩ := h.shorten hnone hu
    refine ⟨c, hc, ?_⟩
    rw [hcap.found]
    cases hf : u.found with
    | nil => exact absurd hf hne
    | cons e rest => simp

/-- **The cap returns a prefix.** With a cap of `k` a call finds the first `k` violations of the
call without a cap, if that has an answer, and one that finds fewer finds all of them. So validity
does not depend on the cap, and a trial is passed exactly when the sub-schema, evaluated for real
and without a cap, would have no violation. -/
theorem evaluate_prefix_with_cap (registry : Registry) (limit : Nat) (frame : Frame) (index : Nat)
    (v : Value) (k : Nat) (hk : 1 ≤ k) :
    (∀ es, registry.evaluate limit 0 frame index v = .ok es →
      registry.evaluate limit k frame index v = .ok (es.take k)) ∧
    (∀ es, registry.evaluate limit k frame index v = .ok es → es.length < k →
      registry.evaluate limit 0 frame index v = .ok es) ∧
    (∀ cap cap' es es', registry.evaluate limit cap frame index v = .ok es →
      registry.evaluate limit cap' frame index v = .ok es' →
      Report.isValid es = Report.isValid es') ∧
    (∀ steps (s : EvalStack) (b : Branch Nat),
      (((Eval.passes (Eval.within registry limit steps) b.tokens b.token b.schema b.value).run
          s).1 = .ok true ↔
        ∃ out, ((Eval.descend (Eval.within registry limit steps) b.tokens b.token b.schema b.value
          (.none 0)).run s).1 = .ok out ∧ out.found = []) ∧
      ∀ out, ((Eval.descend (Eval.within registry limit steps) b.tokens b.token b.schema b.value
          (.none 0)).run s).1 = .ok out → out.found ≠ [] →
        ((Eval.passes (Eval.within registry limit steps) b.tokens b.token b.schema b.value).run
          s).1 = .ok false) := by
  have hk0 : k ≠ 0 := Nat.pos_iff_ne_zero.mp hk
  refine ⟨fun es h => evaluate_take hk0 h, fun es h hlt => evaluate_of_lt hk0 h hlt, ?_, ?_⟩
  · -- a report without violations is the same with any cap
    intro cap cap' es es' h h'
    cases es with
    | nil =>
        have hnil := (evaluate_nil_iff_nil cap cap').mp h
        rw [h'] at hnil
        cases hnil; rfl
    | cons e rest =>
        cases es' with
        | nil =>
            have hnil := (evaluate_nil_iff_nil cap' cap).mp h'
            rw [h] at hnil
            exact nomatch hnil
        | cons e' rest' => rfl
  · -- a trial has a cap of one and a list of its own
    intro steps s b
    rw [Eval.passes_run, Eval.descend_run, Site.passes_eq_ok]
    obtain ⟨hpass, hfail⟩ := trial_of_capIndependent
      ((Eval.site_capIndependent
        (Eval.answerWithin_capIndependent Nat.one_ne_zero registry limit steps) limit s).evaluate b)
    refine ⟨?_, fun u hu hne => ?_⟩
    · rw [← hpass]
      simp only [Violations.isEmpty, List.isEmpty_iff]
    · obtain ⟨c, hc, hne⟩ := hfail u (Eval.descend_run registry limit steps s b _ ▸ hu) hne
      exact Site.passes_eq_ok.mpr ⟨c, hc, List.isEmpty_eq_false_iff.mpr hne⟩

/-- A schema whose `items` accept nothing. -/
def noElements : Registry where
  nodes := #[{ uri := "#/items", body := .bool false },
    { uri := "", body := .keywords { arrays := { items := some (.all 0) } } }]
  byUri := [("#/items", 0), ("", 1)]

/-- Of three elements that are not accepted, a cap of two leaves the first two. -/
theorem evaluate_prefix_with_cap_noElements :
    1 ≤ 2 ∧ noElements.evaluate 128 2 ⟨"", []⟩ 1 (.array [.null, .null, .null]) =
      .ok [⟨⟨["0"]⟩, ⟨["items"]⟩, ""⟩, ⟨⟨["1"]⟩, ⟨["items"]⟩, ""⟩] :=
  ⟨by decide,
    (evaluate_prefix_with_cap noElements 128 ⟨"", []⟩ 1 (.array [.null, .null, .null]) 2
      (by decide)).1
      [⟨⟨["0"]⟩, ⟨["items"]⟩, ""⟩, ⟨⟨["1"]⟩, ⟨["items"]⟩, ""⟩, ⟨⟨["2"]⟩, ⟨["items"]⟩, ""⟩] rfl⟩

end JsonSchema
