import JsonSchema.Proofs.Compilation.History
import JsonSchema.Proofs.Evaluation.Moments
import Mathlib.Order.RelClasses

/-!
# Evaluation terminates

References may form any cycles, but following one takes a frame, and the number of frames is
limited. All other nested calls go from a node to one of its sub-schemas, which has a smaller index.
So the frames that are left and the index get smaller in lexicographic order along every nested
call.

The bound on the depth of an evaluation is then never reached. The answer of a call is what its node
makes of the answers of the calls nested in it, however large the bound is, and an evaluation fails
if and only if it comes to a moment that fails by itself.
-/

namespace JsonSchema

namespace Eval

variable {registry : Registry} {limit : Nat} {answers : Answers}

/-! ## Nested calls -/

/-- A call that may be made at another one: for a sub-schema, or for the reference if there is a
frame left. -/
inductive Nests (registry : Registry) (limit : Nat) (c : Call) : Call → Prop
  | inside {node : Node} {k : Keywords} {b : Branch Nat} : registry.get? c.index = some node →
      node.body = .keywords k → k.Leads c.value b →
      Nests registry limit c ⟨c.places.below b.tokens b.token, b.schema, b.value⟩
  | follow {node : Node} {k : Keywords} {ref : Reference} {j : Nat} {frame : Frame} :
      registry.get? c.index = some node → node.body = .keywords k → k.ref = some ref →
      ref.resolved = some j → c.places.depth < limit →
      Nests registry limit c ⟨c.places.pushFrame frame, j, c.value⟩

theorem Makes.nests {m m' : Moment} (h : Makes registry limit answers m m') :
    Nests registry limit m.call m'.call := by
  cases h with
  | @branch k task out b trial hopens hcomes hstarts =>
      obtain ⟨_, node, hnode, hbody⟩ := hopens
      rcases Keywords.mem_tasks hcomes.mem with ⟨ref, _, rfl⟩ | htask
      · -- following a reference starts no branch
        exact nomatch hstarts
      · have hleads := (Keywords.own_ownTasks k _ task htask).branches b hstarts.mem
        exact .inside hnode hbody hleads
  | follow hopens href hj hd =>
      obtain ⟨_, node, hnode, hbody⟩ := hopens
      exact .follow hnode hbody href hj (Nat.lt_of_not_le hd)

/-- The frames that are left, and the index. -/
def left (limit : Nat) (c : Call) : Nat × Nat := (limit - c.places.depth, c.index)

/-- One call comes below another one: with fewer frames left, or as many and a smaller index. -/
def Lower (limit : Nat) (c' c : Call) : Prop :=
  Prod.Lex (· < ·) (· < ·) (left limit c') (left limit c)

theorem wellFounded_lower (limit : Nat) : WellFounded (Lower limit) :=
  InvImage.wf (left limit) (WellFounded.prod_lex Nat.lt_wfRel.wf Nat.lt_wfRel.wf)

/-- The two kinds of nested calls, by what they change. -/
theorem Nests.depth_or (hs : registry.Sound) {c c' : Call} (h : Nests registry limit c c') :
    c'.places.depth = c.places.depth ∧ c'.index < c.index ∨
      c'.places.depth = c.places.depth + 1 ∧ c'.places.depth ≤ limit := by
  cases h with
  | inside hnode hbody hleads =>
      have hlt := hs.children hnode hbody _ hleads.child
      exact Or.inl ⟨EvalStack.depth_below _ _ _, hlt⟩
  | follow _ _ _ _ hd => exact Or.inr ⟨rfl, hd⟩

/-- **Nested calls come below.** -/
theorem Nests.lower (hs : registry.Sound) {c c' : Call} (h : Nests registry limit c c') :
    Lower limit c' c := by
  rcases h.depth_or hs with ⟨hdepth, hindex⟩ | ⟨hdepth, hlimit⟩
  · refine Prod.lex_def.mpr (Or.inr ⟨?_, hindex⟩)
    show limit - c'.places.depth = limit - c.places.depth
    rw [hdepth]
  · refine Prod.lex_def.mpr (Or.inl ?_)
    show limit - c'.places.depth < limit - c.places.depth
    omega

/-! ## Enough depth -/

/-- How much evaluation there can still be at a node. -/
def rank (registry : Registry) (limit : Nat) (s : EvalStack) (i : Nat) : Nat :=
  (limit - s.depth) * (registry.size + 1) + i

theorem rank_below {s : EvalStack} {tokens : List String} {token : Option String} {i j : Nat}
    (h : j < i) : rank registry limit (s.below tokens token) j < rank registry limit s i := by
  unfold rank
  rw [EvalStack.depth_below]
  exact Nat.add_lt_add_left h _

theorem rank_pushFrame {s : EvalStack} {frame : Frame} {i j : Nat} (hd : ¬ limit ≤ s.depth)
    (hj : j < registry.size) :
    rank registry limit (s.pushFrame frame) j < rank registry limit s i := by
  unfold rank
  rw [EvalStack.depth_pushFrame]
  -- one frame less is worth more than all nodes together
  have hsub : limit - s.depth = (limit - (s.depth + 1)) + 1 := by omega
  rw [hsub, Nat.succ_mul]
  omega

/-- The first call has a rank that the bound on depth allows. -/
theorem rank_le_steps {s : EvalStack} {i : Nat} (hi : i < registry.size) :
    rank registry limit s i ≤ steps registry limit := by
  unfold rank steps
  have hle := Nat.mul_le_mul_right (registry.size + 1) (Nat.sub_le limit s.depth)
  rw [Nat.succ_mul]
  omega

theorem Nests.lt_size {c c' : Call} (h : Nests registry limit c c') : c.index < registry.size := by
  cases h with
  | inside hnode _ _ => exact Registry.lt_size_of_get? hnode
  | follow hnode _ _ _ _ => exact Registry.lt_size_of_get? hnode

theorem Nests.rank_lt (hs : registry.Sound) {c c' : Call} (h : Nests registry limit c c') :
    c'.index < registry.size ∧
      rank registry limit c'.places c'.index < rank registry limit c.places c.index := by
  have hlt := h.lt_size
  cases h with
  | inside hnode hbody hleads =>
      have hindex := hs.children hnode hbody _ hleads.child
      exact ⟨Nat.lt_trans hindex hlt, rank_below hindex⟩
  | @follow node k ref j frame hnode hbody href hj hd =>
      have hj' := hs.lt_size hnode (Node.ref?_of_keywords hbody href) hj
      exact ⟨hj', rank_pushFrame (Nat.not_le_of_lt hd) hj'⟩

/-- A bound on the depth is as good as any other one, if both allow the rank of the call. -/
theorem answer_of_bounds (hs : registry.Sound) {bound bound' : Nat} {m : Moment}
    (h : m.call.index < registry.size → rank registry limit m.call.places m.call.index ≤ bound)
    (h' : m.call.index < registry.size → rank registry limit m.call.places m.call.index ≤ bound') :
    m.answer (answerWithin registry limit bound) =
      m.answer (answerWithin registry limit bound') := by
  -- Induction on the first bound: the calls nested in this one have smaller ranks, so that a
  -- smaller bound is enough for them. There are none if a bound is zero.
  induction bound generalizing bound' m with
  | zero =>
      have hnone : ∀ answers m', ¬ Makes registry limit answers m m' := by
        intro answers m' hmakes
        have hrank := (hmakes.nests.rank_lt hs).2
        have hle := h hmakes.nests.lt_size
        omega
      cases bound' <;> exact nodeAnswer_congr_made fun m' hmakes => absurd hmakes (hnone _ m')
  | succ bound ih =>
      cases bound' with
      | zero =>
          refine nodeAnswer_congr_made fun m' hmakes => ?_
          have hrank := (hmakes.nests.rank_lt hs).2
          have hle := h' hmakes.nests.lt_size
          omega
      | succ bound' =>
          refine nodeAnswer_congr_made fun m' hmakes => ?_
          obtain ⟨_, hrank⟩ := hmakes.nests.rank_lt hs
          have hle := h hmakes.nests.lt_size
          have hle' := h' hmakes.nests.lt_size
          exact ih (fun _ => by omega) (fun _ => by omega)

theorem answerWithin_succ (hs : registry.Sound) {bound : Nat}
    (hbound : steps registry limit ≤ bound) :
    answerWithin registry limit bound = answerWithin registry limit (bound + 1) := by
  funext s i v out
  have hrank : i < registry.size → rank registry limit s i ≤ bound :=
    fun hi => Nat.le_trans (rank_le_steps hi) hbound
  exact answer_of_bounds hs (m := ⟨⟨s, i, v⟩, out, []⟩) hrank fun hi => Nat.le_succ_of_le (hrank hi)

/-- **The bound on the depth is never reached**: every call of an evaluation is the evaluation of
its node. -/
theorem within_eq_node (hs : registry.Sound) {bound : Nat} (hbound : steps registry limit ≤ bound) :
    within registry limit bound = node (within registry limit bound) registry limit := by
  funext i v out s
  show (within registry limit bound i v out).run s = (node _ registry limit i v out).run s
  rw [within_reads registry limit bound i v out s s.admits_release,
    node_reads (within_reads registry limit bound) i v out s s.admits_release,
    answerWithin_succ hs hbound]
  refine Prod.ext ?_ rfl
  -- one more call is allowed on the right, and that makes no difference
  show answerWithin registry limit (bound + 1) s i v out =
    nodeAnswer registry limit (answerWithin registry limit (bound + 1)) s i v out
  rw [← answerWithin_succ hs hbound]
  exact congrFun (congrFun (congrFun (congrFun (answerWithin_succ hs hbound) s) i) v) out

/-! ## What the code calls -/

/-- The places are left as they were found. -/
def KeepsPlaces (evaluate : Nat → Value → Violations → Eval Violations) : Prop :=
  ∀ i v out s, ((evaluate i v out).run s).2 = s

/-- Two ways to evaluate nodes agree on some calls. -/
def AgreeOn (P : Call → Prop) (evaluate evaluate' : Nat → Value → Violations → Eval Violations) :
    Prop :=
  ∀ c out, P c →
    (evaluate c.index c.value out).run c.places = (evaluate' c.index c.value out).run c.places

/-- Evaluating a node evaluates nothing but the calls nested there. -/
theorem agreeOn_node {evaluate evaluate' : Nat → Value → Violations → Eval Violations}
    (h : KeepsPlaces evaluate) (h' : KeepsPlaces evaluate') {P Q : Call → Prop}
    (hnests : ∀ c c', Q c → Nests registry limit c c' → P c')
    (hagree : AgreeOn P evaluate evaluate') :
    AgreeOn Q (node evaluate registry limit) (node evaluate' registry limit) := by
  intro c out hc
  have hreads : ∀ i v out, Reads (evaluate i v out) (fun s => ((evaluate i v out).run s).1) :=
    fun i v out s _ => Prod.ext rfl (h i v out s)
  have hreads' : ∀ i v out, Reads (evaluate' i v out) (fun s => ((evaluate' i v out).run s).1) :=
    fun i v out s _ => Prod.ext rfl (h' i v out s)
  rw [@node_reads _ registry limit evaluate (fun s i v out => ((evaluate i v out).run s).1) hreads
      _ _ _ _ c.places.admits_release,
    @node_reads _ registry limit evaluate' (fun s i v out => ((evaluate' i v out).run s).1) hreads'
      _ _ _ _ c.places.admits_release]
  refine Prod.ext ?_ rfl
  refine @nodeAnswer_congr_made registry limit _ _ ⟨c, out, []⟩ fun m' hmakes => ?_
  exact congrArg Prod.fst (hagree m'.call m'.out (hnests c _ hc hmakes.nests))

/-! ## Runs -/

/-- What evaluation answers at any call. -/
def answer (registry : Registry) (limit : Nat) : Answers :=
  answerWithin registry limit (steps registry limit)

/-- One moment of an evaluation makes another. -/
def Run (registry : Registry) (limit : Nat) : Moment → Moment → Prop :=
  Makes registry limit (answer registry limit)

/-- The evaluation that starts at a moment comes to another one. -/
abbrev ComesTo (registry : Registry) (limit : Nat) : Moment → Moment → Prop :=
  Relation.ReflTransGen (Run registry limit)

theorem answer_eq (hs : registry.Sound) :
    answer registry limit = nodeAnswer registry limit (answer registry limit) :=
  answerWithin_succ hs (Nat.le_refl _)

/-- An evaluation fails if and only if it comes to a moment that fails by itself. -/
theorem answer_eq_error (hs : registry.Sound) {m : Moment} {e : EvalError} :
    m.answer (answer registry limit) = .error e ↔
      ∃ m', ComesTo registry limit m m' ∧ Fails registry limit m' e := by
  have hstep : ∀ m : Moment, m.answer (answer registry limit) = .error e ↔
      Fails registry limit m e ∨
        ∃ m', Run registry limit m m' ∧ m'.answer (answer registry limit) = .error e := by
    intro m
    have hiff := @nodeAnswer_eq_error registry limit (answer registry limit) m e
    rw [← answer_eq hs] at hiff
    exact hiff
  constructor
  · -- a call that fails without failing by itself makes one that fails, and that one comes below
    intro h
    have hwf := InvImage.wf Moment.call (wellFounded_lower limit)
    induction m using hwf.induction with
    | _ m ih =>
        rcases (hstep m).mp h with hfails | ⟨m', hrun, he⟩
        · exact ⟨m, .refl, hfails⟩
        · obtain ⟨m'', hcomes, hfails⟩ := ih m' (hrun.nests.lower hs) he
          exact ⟨m'', .head hrun hcomes, hfails⟩
  · rintro ⟨m', hcomes, hfails⟩
    induction hcomes using Relation.ReflTransGen.head_induction_on with
    | refl => exact (hstep m').mpr (Or.inl hfails)
    | head hrun _ ih => exact (hstep _).mpr (Or.inr ⟨_, hrun, ih⟩)

theorem evaluate_eq_answer (registry : Registry) (limit cap : Nat) (frame : Frame) (i : Nat)
    (v : Value) : registry.evaluate limit cap frame i v =
      ((Moment.start frame i v cap).answer (answer registry limit)).map Violations.found :=
  Registry.evaluate_eq registry limit cap frame i v

theorem evaluate_eq_error (hs : registry.Sound) {cap i : Nat} {frame : Frame} {v : Value}
    {e : EvalError} : registry.evaluate limit cap frame i v = .error e ↔
      ∃ m, ComesTo registry limit (.start frame i v cap) m ∧ Fails registry limit m e := by
  rw [evaluate_eq_answer, ← answer_eq_error hs]
  generalize (Moment.start frame i v cap).answer (answer registry limit) = a
  cases a with
  | ok out => exact ⟨fun h => (nomatch h), fun h => (nomatch h)⟩
  | error e' => exact ⟨fun h => by cases h; rfl, fun h => by cases h; rfl⟩

/-- From a node that is there an evaluation only comes to nodes that are there. -/
theorem ComesTo.lt_size (hs : registry.Sound) {m m' : Moment} (h : ComesTo registry limit m m')
    (hm : m.call.index < registry.size) : m'.call.index < registry.size := by
  rcases Relation.ReflTransGen.cases_tail h with heq | ⟨_, _, hrun⟩
  · rw [heq]
    exact hm
  · exact (hrun.nests.rank_lt hs).1

/-- At a node that is there nothing fails but a reference. -/
theorem Fails.overflow_or_unlinked {m : Moment} {e : EvalError} (h : Fails registry limit m e)
    (hm : m.call.index < registry.size) :
    e = .stackOverflow limit ∨ ∃ k ref, m.Opens registry k ∧ k.ref = some ref ∧
      ref.resolved = none ∧ e = .unlinked ref.target.key := by
  cases h with
  | noNode _ hnone =>
      have hsome : registry.get? m.call.index = some registry.nodes[m.call.index] :=
        Array.getElem?_eq_getElem hm
      rw [hsome] at hnone
      exact nomatch hnone
  | unlinked hopens href hj => exact Or.inr ⟨_, _, hopens, href, hj, rfl⟩
  | overflow _ _ _ _ => exact Or.inl rfl

end Eval

open Eval

/-- **Evaluation terminates**, whatever has been done to the registry. Sub-schemas have smaller
indices, and links lead to nodes. Along every nested call either the index gets smaller, or there is
one more of the frames that are allowed, so there is no endless chain of nested calls; and a call
depends on no others than those below it. Hence any bound on the depth that is large enough is never
reached, and from a node that is there evaluation meets no index without a node. -/
theorem evaluation_terminates (operations : List Registry.Operation) (limit : Nat) :
    let registry := Registry.after operations
    (∀ i node k, registry.get? i = some node → node.body = .keywords k →
      (∀ j ∈ k.children, j < i) ∧
        ∀ ref j, k.ref = some ref → ref.resolved = some j → j < registry.size) ∧
    (∀ m m', Run registry limit m m' →
      Prod.Lex (· < ·) (· < ·) (limit - m'.call.places.depth, m'.call.index)
        (limit - m.call.places.depth, m.call.index) ∧
      (m'.call.places.depth = m.call.places.depth ∧ m'.call.index < m.call.index ∨
        m'.call.places.depth = m.call.places.depth + 1 ∧ m'.call.places.depth ≤ limit)) ∧
    WellFounded (fun m' m => Run registry limit m m') ∧
    (∀ evaluate evaluate', KeepsPlaces evaluate → KeepsPlaces evaluate' → ∀ c,
      AgreeOn (fun c' => Lower limit c' c) evaluate evaluate' →
        AgreeOn (fun c' => c' = c) (node evaluate registry limit) (node evaluate' registry limit)) ∧
    (∀ bound, steps registry limit ≤ bound →
      within registry limit bound = node (within registry limit bound) registry limit) ∧
    ∀ cap frame i v e, i < registry.size → registry.evaluate limit cap frame i v = .error e →
      e = .stackOverflow limit ∨ ∃ key, e = .unlinked key := by
  intro registry
  have hs : registry.Sound := Registry.sound_after operations
  have hlower : ∀ {m m'}, Run registry limit m m' → Lower limit m'.call m.call :=
    fun hrun => hrun.nests.lower hs
  refine ⟨fun i node k hn hk => ⟨hs.children hn hk, fun ref j href hj => ?_⟩,
    fun m m' hrun => ⟨hlower hrun, hrun.nests.depth_or hs⟩, ?_,
    fun evaluate evaluate' h h' c hc => agreeOn_node h h' (fun c₁ c₂ heq hnests => ?_) hc,
    fun bound hbound => within_eq_node hs hbound, fun cap frame i v e hi he => ?_⟩
  · exact hs.lt_size hn (Node.ref?_of_keywords hk href) hj
  · exact Subrelation.wf hlower (InvImage.wf Moment.call (wellFounded_lower limit))
  · rw [← heq]
    exact hnests.lower hs
  · obtain ⟨m, hcomes, hfails⟩ := (evaluate_eq_error hs).mp he
    rcases hfails.overflow_or_unlinked (hcomes.lt_size hs hi) with heq | ⟨_, _, _, _, _, heq⟩
    · exact Or.inl heq
    · exact Or.inr ⟨_, heq⟩

/-- A compilation that fails after a node has been added, two schemas that lead in a circle, and a
reference into it. -/
def entangled : List Registry.Operation :=
  [.compileRoot (.object [("not", .bool true), ("maxLength", .null)]),
    .addRef "urn:a" { base := .anonymous, pointer := .root },
    .compileRoot (.object [("anyOf", .array [.object [("$ref", .string "#")], .bool true])]), .link]

theorem evaluation_terminates_entangled :
    (Registry.after entangled).nodes.toList.map Node.uri =
        ["#/not", "urn:a", "#/anyOf/0", "#/anyOf/1", ""] ∧
      (Registry.after entangled).evaluate 3 0 ⟨"urn:a", []⟩ 1 .null = .error (.stackOverflow 3) ∧
      within (Registry.after entangled) 3 24 =
        node (within (Registry.after entangled) 3 24) (Registry.after entangled) 3 ∧
      WellFounded fun m' m => Run (Registry.after entangled) 3 m m' := by
  obtain ⟨_, _, hwf, _, hwithin, _⟩ := evaluation_terminates entangled 3
  have hsteps : steps (Registry.after entangled) 3 ≤ 24 := by decide +kernel
  exact ⟨by decide +kernel, by decide +kernel, hwithin 24 hsteps, hwf⟩

end JsonSchema
