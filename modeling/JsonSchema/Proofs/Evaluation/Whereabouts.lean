import JsonSchema.Proofs.Evaluation.Idle
import JsonSchema.Proofs.Evaluation.Overflow

/-!
# Where an evaluation is run

An evaluation may be run anywhere: deep in an instance, or below many frames. What it finds is the
same as anywhere else, as far as the evaluation itself goes. Only the way to the start comes before
the way into the instance, and the frame of the start before the way into its document; what is
found after a reference has been followed is located in the frame of that reference. And with as
many frames left, both evaluations have an answer, or neither has one.

This is shown by running two evaluations side by side. They are at corresponding places at any time,
and their lists of violations correspond one by one.
-/

namespace JsonSchema

/-! ## Violations as seen from the start -/

namespace EvalStack

/-- The current frame, if there is any. -/
def current (s : EvalStack) : Frame := s.frames.headD ⟨"", []⟩

end EvalStack

/-- A violation as it is seen from the places where an evaluation starts. -/
inductive Relative where
  /-- In the frame of the start: the ways into the instance and into the document. -/
  | inside (way tokens : List String)
  /-- In the frame of a reference that has been followed: the way into the instance, and the frame
  with the way to the keyword. -/
  | apart (way : List String) (frame : Frame)

namespace Relative

/-- The violation itself, for an evaluation that starts at some places. -/
def seenFrom (start : EvalStack) : Relative → Violation
  | inside way tokens =>
    { instancePath := ⟨start.instancePath ++ way⟩
      schemaPath := ⟨start.current.tokens ++ tokens⟩
      schemaUri := start.current.uri }
  | apart way frame =>
    { instancePath := ⟨start.instancePath ++ way⟩
      schemaPath := ⟨frame.tokens⟩
      schemaUri := frame.uri }

/-- One token further down in the document. -/
def pushToken (token : String) : Relative → Relative
  | inside way tokens => inside way (tokens ++ [token])
  | apart way frame => apart way { frame with tokens := frame.tokens ++ [token] }

/-- One token further down in the instance. -/
def pushInstance (token : String) : Relative → Relative
  | inside way tokens => inside (way ++ [token]) tokens
  | apart way frame => apart (way ++ [token]) frame

/-- In another frame. -/
def pushFrame (frame : Frame) : Relative → Relative
  | inside way _ => apart way frame
  | apart way _ => apart way frame

/-- Nothing is seen of the start but the way into the instance and the current frame. -/
theorem seenFrom_congr {start start' : EvalStack}
    (hpath : start.instancePath = start'.instancePath) (hframe : start.current = start'.current) :
    seenFrom start = seenFrom start' := by
  funext seen
  cases seen <;> simp only [seenFrom, hpath, hframe]

end Relative

/-! ## Corresponding places -/

namespace Eval

/-- Two evaluations have come to corresponding places: with as many frames left, and in such a way
that a violation would be the same one, seen from where each of them started. -/
structure Corresponds (start start' : EvalStack) (limit limit' : Nat) (s s' : EvalStack) :
    Prop where
  frames : s.frames ≠ []
  frames' : s'.frames ≠ []
  left : limit - s.depth = limit' - s'.depth
  violation : ∃ seen : Relative,
    s.violation = seen.seenFrom start ∧ s'.violation = seen.seenFrom start'

variable {start start' s s' : EvalStack} {limit limit' : Nat}

theorem violation_of_frames {s : EvalStack} (h : s.frames ≠ []) :
    s.violation = ⟨⟨s.instancePath⟩, ⟨s.current.tokens⟩, s.current.uri⟩ := by
  obtain ⟨path, frames⟩ := s
  cases frames with
  | nil => exact absurd rfl h
  | cons frame rest => rfl

theorem frames_pushToken {s : EvalStack} (h : s.frames ≠ []) (token : String) :
    (s.pushToken token).frames ≠ [] ∧ (s.pushToken token).violation =
      { s.violation with schemaPath := ⟨s.violation.schemaPath.tokens ++ [token]⟩ } := by
  obtain ⟨path, frames⟩ := s
  cases frames with
  | nil => exact absurd rfl h
  | cons frame rest => exact ⟨List.cons_ne_nil _ _, rfl⟩

theorem violation_pushInstance (s : EvalStack) (token : String) :
    (s.pushInstance token).violation =
      { s.violation with instancePath := ⟨s.violation.instancePath.tokens ++ [token]⟩ } := by
  obtain ⟨path, frames⟩ := s
  cases frames <;> rfl

theorem violation_pushFrame (s : EvalStack) (frame : Frame) :
    (s.pushFrame frame).violation =
      ⟨s.violation.instancePath, ⟨frame.tokens⟩, frame.uri⟩ := by
  obtain ⟨path, frames⟩ := s
  cases frames <;> rfl

theorem corresponds_self (h : start.frames ≠ []) (h' : start'.frames ≠ [])
    (hleft : limit - start.depth = limit' - start'.depth) :
    Corresponds start start' limit limit' start start' := by
  have hseen : ∀ {s : EvalStack}, s.frames ≠ [] →
      s.violation = (Relative.inside [] []).seenFrom s := by
    intro s hs
    rw [violation_of_frames hs, Relative.seenFrom, List.append_nil, List.append_nil]
  exact ⟨h, h', hleft, .inside [] [], hseen h, hseen h'⟩

theorem Corresponds.pushToken (h : Corresponds start start' limit limit' s s') (token : String) :
    Corresponds start start' limit limit' (s.pushToken token) (s'.pushToken token) := by
  obtain ⟨hframes, hviolation⟩ := frames_pushToken h.frames token
  obtain ⟨hframes', hviolation'⟩ := frames_pushToken h.frames' token
  obtain ⟨seen, hseen, hseen'⟩ := h.violation
  have hpush : ∀ start : EvalStack, (seen.pushToken token).seenFrom start =
      { seen.seenFrom start with
        schemaPath := ⟨(seen.seenFrom start).schemaPath.tokens ++ [token]⟩ } := by
    intro start
    cases seen with
    | inside way tokens => simp only [Relative.pushToken, Relative.seenFrom, List.append_assoc]
    | apart way frame => rfl
  refine ⟨hframes, hframes', ?_, seen.pushToken token, ?_, ?_⟩
  · rw [EvalStack.depth_pushToken, EvalStack.depth_pushToken]
    exact h.left
  · rw [hviolation, hseen, hpush]
  · rw [hviolation', hseen', hpush]

theorem Corresponds.pushInstance (h : Corresponds start start' limit limit' s s')
    (token : String) :
    Corresponds start start' limit limit' (s.pushInstance token) (s'.pushInstance token) := by
  obtain ⟨seen, hseen, hseen'⟩ := h.violation
  have hpush : ∀ start : EvalStack, (seen.pushInstance token).seenFrom start =
      { seen.seenFrom start with
        instancePath := ⟨(seen.seenFrom start).instancePath.tokens ++ [token]⟩ } := by
    intro start
    cases seen <;> simp only [Relative.pushInstance, Relative.seenFrom, List.append_assoc]
  refine ⟨h.frames, h.frames', h.left, seen.pushInstance token, ?_, ?_⟩
  · rw [violation_pushInstance, hseen, hpush]
  · rw [violation_pushInstance, hseen', hpush]

theorem Corresponds.below (h : Corresponds start start' limit limit' s s') (tokens : List String)
    (token : Option String) :
    Corresponds start start' limit limit' (s.below tokens token) (s'.below tokens token) := by
  have htokens : Corresponds start start' limit limit' (tokens.foldl EvalStack.pushToken s)
      (tokens.foldl EvalStack.pushToken s') := by
    induction tokens generalizing s s' with
    | nil => exact h
    | cons t rest ih => exact ih (h.pushToken t)
  cases token with
  | none => exact htokens
  | some t => exact htokens.pushInstance t

/-- In the frame of a reference violations are located in the same way, wherever it is followed. -/
theorem Corresponds.pushFrame (h : Corresponds start start' limit limit' s s') (frame : Frame) :
    Corresponds start start' limit limit' (s.pushFrame frame) (s'.pushFrame frame) := by
  obtain ⟨seen, hseen, hseen'⟩ := h.violation
  have hpush : ∀ start : EvalStack, (seen.pushFrame frame).seenFrom start =
      ⟨(seen.seenFrom start).instancePath, ⟨frame.tokens⟩, frame.uri⟩ := by
    intro start
    cases seen <;> rfl
  refine ⟨List.cons_ne_nil _ _, List.cons_ne_nil _ _, ?_, seen.pushFrame frame, ?_, ?_⟩
  · have hleft := h.left
    rw [EvalStack.depth_pushFrame, EvalStack.depth_pushFrame]
    omega
  · rw [violation_pushFrame, hseen, hpush]
  · rw [violation_pushFrame, hseen', hpush]

/-- There is a frame left in both or in neither. -/
theorem Corresponds.limit_le (h : Corresponds start start' limit limit' s s') :
    limit ≤ s.depth ↔ limit' ≤ s'.depth := by
  have hleft := h.left
  omega

/-! ## Corresponding lists -/

/-- The lists hold the same violations, each seen from where its evaluation started. -/
structure SameFound (start start' : EvalStack) (out out' : Violations) : Prop where
  cap : out.cap = out'.cap
  found : ∃ seen : List Relative, out.found = seen.map (·.seenFrom start) ∧
    out'.found = seen.map (·.seenFrom start')

theorem sameFound_none (start start' : EvalStack) (cap : Nat) :
    SameFound start start' (.none cap) (.none cap) := ⟨rfl, [], rfl, rfl⟩

variable {out out' : Violations}

theorem SameFound.length (h : SameFound start start' out out') :
    out.found.length = out'.found.length := by
  obtain ⟨seen, hfound, hfound'⟩ := h.found
  rw [hfound, hfound', List.length_map, List.length_map]

theorem SameFound.isFull (h : SameFound start start' out out') : out.isFull = out'.isFull := by
  unfold Violations.isFull
  rw [h.cap, h.length]

theorem SameFound.isEmpty (h : SameFound start start' out out') : out.isEmpty = out'.isEmpty := by
  obtain ⟨seen, hfound, hfound'⟩ := h.found
  unfold Violations.isEmpty
  rw [hfound, hfound', List.isEmpty_map, List.isEmpty_map]

theorem SameFound.add (h : SameFound start start' out out')
    (hc : Corresponds start start' limit limit' s s') :
    SameFound start start' (out.add s.violation) (out'.add s'.violation) := by
  unfold Violations.add
  rw [h.isFull]
  split
  · exact h
  · obtain ⟨seen, hfound, hfound'⟩ := h.found
    obtain ⟨last, hlast, hlast'⟩ := hc.violation
    refine ⟨h.cap, seen ++ [last], ?_, ?_⟩
    · rw [hfound, hlast, List.map_append]
      rfl
    · rw [hfound', hlast', List.map_append]
      rfl

/-! ## Corresponding answers -/

/-- Both have an answer, or both lack frames, or both fail for the same other reason. -/
inductive SameOutcome (limit limit' : Nat) {α β : Type} (R : α → β → Prop) :
    Except EvalError α → Except EvalError β → Prop where
  | ok {a : α} {b : β} : R a b → SameOutcome limit limit' R (.ok a) (.ok b)
  | overflow : SameOutcome limit limit' R (.error (.stackOverflow limit))
      (.error (.stackOverflow limit'))
  | other (e : EvalError) : SameOutcome limit limit' R (.error e) (.error e)

theorem SameOutcome.bind {α β γ δ : Type} {R : α → β → Prop} {T : γ → δ → Prop}
    {a : Except EvalError α} {b : Except EvalError β} {f : α → Except EvalError γ}
    {g : β → Except EvalError δ} (h : SameOutcome limit limit' R a b)
    (hf : ∀ x y, R x y → SameOutcome limit limit' T (f x) (g y)) :
    SameOutcome limit limit' T (a >>= f) (b >>= g) := by
  cases h with
  | ok hr => exact hf _ _ hr
  | overflow => exact .overflow
  | other e => exact .other e

/-- Two ways to evaluate have the same outcomes from corresponding lists. -/
def SameFor (start start' : EvalStack) (limit limit' : Nat)
    (f f' : Violations → Except EvalError Violations) : Prop :=
  ∀ out out', SameFound start start' out out' →
    SameOutcome limit limit' (SameFound start start') (f out) (f' out')

/-- What is done at two sites has the same outcome. -/
structure SameSite {ι : Type} (start start' : EvalStack) (limit limit' : Nat) (σ σ' : Site ι) :
    Prop where
  report : ∀ tokens out out', SameFound start start' out out' →
    SameFound start start' (out.add (σ.violation tokens)) (out'.add (σ'.violation tokens))
  evaluate : ∀ b, SameFor start start' limit limit' (σ.evaluate b) (σ'.evaluate b)
  follow : ∀ target schema v,
    SameFor start start' limit limit' (σ.follow target schema v) (σ'.follow target schema v)

namespace SameSite

variable {ι : Type} {σ σ' : Site ι}

theorem reportIf (h : SameSite start start' limit limit' σ σ') (violated : Bool)
    (tokens : List String) (hout : SameFound start start' out out') :
    SameFound start start' (σ.reportIf violated tokens out) (σ'.reportIf violated tokens out') := by
  cases violated with
  | false => exact hout
  | true => exact h.report tokens out out' hout

/-- A trial is passed at both sites or at neither. -/
theorem passes (h : SameSite start start' limit limit' σ σ') (b : Branch ι) :
    SameOutcome limit limit' Eq (σ.passes b) (σ'.passes b) :=
  (h.evaluate b _ _ (sameFound_none start start' 1)).bind fun _ _ hout => .ok hout.isEmpty

theorem somePasses (h : SameSite start start' limit limit' σ σ') (bs : List (Branch ι)) :
    SameOutcome limit limit' Eq (σ.somePasses bs) (σ'.somePasses bs) := by
  induction bs with
  | nil => exact .ok rfl
  | cons b rest ih =>
      refine (h.passes b).bind fun passed passed' heq => ?_
      subst heq
      cases passed with
      | true => exact .ok rfl
      | false => exact ih

theorem onePasses (h : SameSite start start' limit limit' σ σ') (bs : List (Branch ι)) :
    SameOutcome limit limit' Eq (σ.onePasses bs) (σ'.onePasses bs) := by
  induction bs with
  | nil => exact .ok rfl
  | cons b rest ih =>
      refine (h.passes b).bind fun passed passed' heq => ?_
      subst heq
      cases passed with
      | true => exact (h.somePasses rest).bind fun _ _ heq => .ok (congrArg _ heq)
      | false => exact ih

theorem descendIf (h : SameSite start start' limit limit' σ σ') (b : Option (Branch ι)) :
    SameFor start start' limit limit' (σ.descendIf b) (σ'.descendIf b) := by
  cases b with
  | none => exact fun _ _ hout => .ok hout
  | some b => exact h.evaluate b

/-- The outcome of trials decides alike what is reported. -/
theorem afterTrial (h : SameSite start start' limit limit' σ σ')
    {trial trial' : Except EvalError Bool} (htrial : SameOutcome limit limit' Eq trial trial')
    (flip : Bool → Bool) (tokens : List String) :
    SameFor start start' limit limit'
      (fun out => trial >>= fun passed => .ok (σ.reportIf (flip passed) tokens out))
      (fun out => trial' >>= fun passed => .ok (σ'.reportIf (flip passed) tokens out)) := by
  intro out out' hout
  refine htrial.bind fun passed passed' heq => ?_
  subst heq
  exact .ok (h.reportIf _ tokens hout)

theorem perform (h : SameSite start start' limit limit' σ σ') (task : Task ι) :
    SameFor start start' limit limit' (σ.perform task) (σ'.perform task) := by
  cases task with
  | check violated tokens => exact fun _ _ hout => .ok (h.reportIf violated tokens hout)
  | descend b => exact h.evaluate b
  | follow target schema v => exact h.follow target schema v
  | choose condition onPass onFail =>
      intro out out' hout
      refine (h.passes condition).bind fun passed passed' heq => ?_
      subst heq
      cases passed with
      | true => exact h.descendIf onPass out out' hout
      | false => exact h.descendIf onFail out out' hout
  | refute b tokens => exact h.afterTrial (h.passes b) id tokens
  | some bs tokens => exact h.afterTrial (h.somePasses bs) (!·) tokens
  | one bs tokens => exact h.afterTrial (h.onePasses bs) (!·) tokens

theorem performAll (h : SameSite start start' limit limit' σ σ') (tasks : List (Task ι)) :
    SameFor start start' limit limit' (σ.performAll tasks) (σ'.performAll tasks) := by
  induction tasks with
  | nil => exact fun _ _ hout => .ok hout
  | cons task rest ih =>
      intro out out' hout
      rw [Site.performAll_cons, Site.performAll_cons]
      exact (h.perform task out out' hout).bind ih

end SameSite

/-! ## Two evaluations side by side -/

/-- Nodes are evaluated with the same outcome at corresponding places. -/
def SameAnswers (start start' : EvalStack) (limit limit' : Nat) (answers answers' : Answers) :
    Prop :=
  ∀ s s' i v, Corresponds start start' limit limit' s s' →
    SameFor start start' limit limit' (answers s i v) (answers' s' i v)

variable {registry : Registry} {answers answers' : Answers}

theorem sameSite (h : SameAnswers start start' limit limit' answers answers')
    (hc : Corresponds start start' limit limit' s s') :
    SameSite start start' limit limit' (site limit answers s) (site limit' answers' s') where
  report tokens _ _ hout := hout.add (hc.below tokens none)
  evaluate b := h _ _ _ _ (hc.below b.tokens b.token)
  follow target schema v := by
    intro out out' hout
    cases schema with
    | none => exact .other _
    | some j =>
        simp only [site]
        by_cases hd : limit ≤ s.depth
        · rw [if_pos hd, if_pos (hc.limit_le.mp hd)]
          exact .overflow
        · rw [if_neg hd, if_neg (mt hc.limit_le.mpr hd)]
          exact h _ _ _ _ (hc.pushFrame _) _ _ hout

theorem nodeAnswer_sameAnswers (h : SameAnswers start start' limit limit' answers answers') :
    SameAnswers start start' limit limit' (nodeAnswer registry limit answers)
      (nodeAnswer registry limit' answers') := by
  intro s s' i v hc out out' hout
  unfold nodeAnswer
  rw [hout.isFull]
  split
  · exact .ok hout
  · cases registry.get? i with
    | none => exact .other _
    | some node =>
        dsimp only
        cases node.body with
        | bool b =>
            cases b with
            | true => exact .ok hout
            | false => exact .ok (hout.add hc)
        | keywords k => exact (sameSite h hc).performAll _ _ _ hout

theorem answerWithin_sameAnswers (registry : Registry) (bound : Nat) :
    SameAnswers start start' limit limit' (answerWithin registry limit bound)
      (answerWithin registry limit' bound) := by
  induction bound with
  | zero => exact nodeAnswer_sameAnswers fun _ _ _ _ _ _ _ _ => .other _
  | succ bound ih => exact nodeAnswer_sameAnswers ih

/-- The bound on the depth may be raised. -/
theorem answer_eq_answerWithin (hs : registry.Sound) {bound : Nat}
    (hbound : steps registry limit ≤ bound) :
    answer registry limit = answerWithin registry limit bound := by
  funext s i v out
  have hrank : i < registry.size → rank registry limit s i ≤ steps registry limit :=
    fun hi => rank_le_steps hi
  exact answer_of_bounds hs (m := ⟨⟨s, i, v⟩, out, []⟩) hrank
    fun hi => Nat.le_trans (hrank hi) hbound

theorem answer_sameAnswers (hs : registry.Sound) :
    SameAnswers start start' limit limit' (answer registry limit) (answer registry limit') := by
  have hle := Nat.le_max_left (steps registry limit) (steps registry limit')
  have hle' := Nat.le_max_right (steps registry limit) (steps registry limit')
  rw [answer_eq_answerWithin hs hle, answer_eq_answerWithin hs hle']
  exact answerWithin_sameAnswers registry _

/-- **The answers of two evaluations from any places** with as many frames left. -/
theorem answer_anywhere (hs : registry.Sound) (hl : registry.Linked) {i : Nat}
    (hi : i < registry.size) (v : Value) (cap : Nat)
    (hc : Corresponds start start' limit limit' start start') :
    (∃ seen : List Relative,
      answer registry limit start i v (.none cap) =
        .ok { found := seen.map (·.seenFrom start), cap } ∧
      answer registry limit' start' i v (.none cap) =
        .ok { found := seen.map (·.seenFrom start'), cap }) ∨
    (answer registry limit start i v (.none cap) = .error (.stackOverflow limit) ∧
      answer registry limit' start' i v (.none cap) = .error (.stackOverflow limit')) := by
  have hsame := answer_sameAnswers hs start start' i v hc _ _
    (sameFound_none start start' cap)
  have hgathers := answerWithin_gathers registry limit (steps registry limit) start i v (.none cap)
  generalize ha : answer registry limit start i v (.none cap) = a at hsame
  generalize ha' : answer registry limit' start' i v (.none cap) = a' at hsame
  cases hsame with
  | @ok out out' hout =>
      obtain ⟨seen, hfound, hfound'⟩ := hout.found
      have hcap : out.cap = cap := (hgathers out ha).2
      obtain ⟨found, own⟩ := out
      obtain ⟨found', own'⟩ := out'
      have hcap' := hout.cap
      dsimp only at hfound hfound' hcap hcap'
      rw [← hcap, hfound, hfound', ← hcap']
      exact .inl ⟨seen, rfl, rfl⟩
  | overflow => exact .inr ⟨rfl, rfl⟩
  | other e =>
      have he := answer_raises hs hl hi ha
      have he' := answer_raises hs hl hi ha'
      rw [← he, ← he']
      exact .inr ⟨rfl, rfl⟩

/-! ## Nodes that consist of a reference -/

/-- A node that consists of a reference answers as the node does that it is linked to, in the frame
of the reference. -/
theorem answer_bare (hs : registry.Sound) {i j : Nat} {node : Node} {ref : Reference}
    (hnode : registry.get? i = some node) (hbody : node.body = .keywords { ref := some ref })
    (hj : ref.resolved = some j) (hd : ¬ limit ≤ s.depth) (v : Value)
    (hout : ¬ out.isFull = true) :
    answer registry limit s i v out = answer registry limit
      (s.pushFrame ⟨ref.target.base.text, ref.target.pointer.tokens⟩) j v out := by
  have hnodeAnswer : nodeAnswer registry limit (answer registry limit) s i v out =
      (site limit (answer registry limit) s).follow ref.target ref.resolved v out >>=
        (site limit (answer registry limit) s).performAll
          (Keywords.ownTasks { ref := some ref } v) := by
    unfold nodeAnswer
    rw [if_neg hout, hnode]
    dsimp only
    rw [hbody]
    exact Site.performAll_cons _ _ _ _
  rw [answer_eq hs, hnodeAnswer, ← answer_eq hs, hj,
    funext (performAll_of_idle fun _ => idle_of_bare)]
  simp only [site, if_neg hd]
  exact bind_pure _

end Eval

open Eval

/-- **Evaluation does not depend on where it is run.** From any two places with as many frames left
either both evaluations have an answer, or both lack frames. If they have, they find the same
violations one by one: only the ways to the two places differ, and the frames of the two places
where the violation is not located in the frame of a reference.

So following a reference makes no difference. A node that consists of one has exactly the violations
that the node has to which it leads, if there is one more frame for it. -/
theorem evaluation_anywhere {registry : Registry} (hs : registry.Sound) (hl : registry.Linked) :
    (∀ i v cap start start' limit limit', i < registry.size → start.frames ≠ [] →
      start'.frames ≠ [] → limit - start.depth = limit' - start'.depth →
        (∃ seen : List Relative,
          (within registry limit (steps registry limit) i v (.none cap)).run start =
            (.ok { found := seen.map (·.seenFrom start), cap }, start) ∧
          (within registry limit' (steps registry limit') i v (.none cap)).run start' =
            (.ok { found := seen.map (·.seenFrom start'), cap }, start')) ∨
        ((within registry limit (steps registry limit) i v (.none cap)).run start =
            (.error (.stackOverflow limit), start) ∧
          (within registry limit' (steps registry limit') i v (.none cap)).run start' =
            (.error (.stackOverflow limit'), start'))) ∧
    ∀ i node ref j limit cap frame v, registry.get? i = some node →
      node.body = .keywords { ref := some ref } → registry.lookup ref.target.key = some j →
      1 ≤ limit →
        (∃ es, registry.evaluate (limit + 1) cap frame i v = .ok es ∧
          registry.evaluate limit cap ⟨ref.target.base.text, ref.target.pointer.tokens⟩ j v =
            .ok es) ∨
        (registry.evaluate (limit + 1) cap frame i v = .error (.stackOverflow (limit + 1)) ∧
          registry.evaluate limit cap ⟨ref.target.base.text, ref.target.pointer.tokens⟩ j v =
            .error (.stackOverflow limit)) := by
  refine ⟨fun i v cap start start' limit limit' hi hframes hframes' hleft => ?_,
    fun i node ref j limit cap frame v hnode hbody hj hlimit => ?_⟩
  · rw [within_reads _ _ _ _ _ _ _ (EvalStack.admits_release _),
      within_reads _ _ _ _ _ _ _ (EvalStack.admits_release _)]
    rcases answer_anywhere hs hl hi v cap (corresponds_self hframes hframes' hleft) with
      ⟨seen, hok, hok'⟩ | ⟨he, he'⟩
    · exact .inl ⟨seen, congrArg (·, start) hok, congrArg (·, start') hok'⟩
    · exact .inr ⟨congrArg (·, start) he, congrArg (·, start') he'⟩
  · -- the reference is linked to the node with the key of its target
    have href := Node.ref?_of_keywords hbody rfl
    obtain ⟨j', hj'⟩ := hl hnode href
    have hlinked := hs.linked hnode href hj'
    rw [hj] at hlinked
    cases hlinked
    -- from there on it is run below two frames, and directly below one
    have hone : ¬ limit + 1 ≤ (EvalStack.empty.pushFrame frame).depth := by
      show ¬ limit + 1 ≤ 1
      omega
    have hc : Corresponds
        ((EvalStack.empty.pushFrame frame).pushFrame
          ⟨ref.target.base.text, ref.target.pointer.tokens⟩)
        (EvalStack.empty.pushFrame ⟨ref.target.base.text, ref.target.pointer.tokens⟩)
        (limit + 1) limit _ _ :=
      corresponds_self (List.cons_ne_nil _ _) (List.cons_ne_nil _ _) (Nat.add_sub_add_right _ 1 1)
    have hstart : answer registry (limit + 1) (EvalStack.empty.pushFrame frame) i v (.none cap) =
        _ := answer_bare hs hnode hbody hj' hone v (by simp [Violations.isFull, Violations.none])
    rw [evaluate_eq_answer, evaluate_eq_answer]
    unfold Moment.answer Moment.start Call.start
    dsimp only
    rw [hstart]
    rcases answer_anywhere hs hl (hs.coherent.lt_size hj) v cap hc with
      ⟨seen, hok, hok'⟩ | ⟨he, he'⟩
    · rw [hok, hok', Relative.seenFrom_congr rfl rfl]
      exact .inl ⟨_, rfl, rfl⟩
    · rw [he, he']
      exact .inr ⟨rfl, rfl⟩

/-- A reference to the root of a document, and the document. -/
def crossing : Registry where
  nodes := #[⟨"urn:a", .keywords { ref := some ⟨⟨.anonymous, .root⟩, some 1⟩ }⟩,
    ⟨"", .keywords { types := some [.string], const := some (.bool true) }⟩]
  byUri := [("urn:a", 0), ("", 1)]

theorem sound_crossing : crossing.Sound where
  coherent := by
    intro key i hi
    have hkeys : (key, i) ∈ crossing.byUri := Members.mem_of_get? hi
    rcases List.mem_pair.mp hkeys with heq | heq <;> cases heq <;> exact ⟨_, rfl, rfl⟩
  found := by
    intro i node hi
    match i with
    | 0 => cases hi; decide +kernel
    | 1 => cases hi; decide +kernel
    | i + 2 => exact nomatch hi
  children := by
    intro i node k hi hk j hj
    match i with
    | 0 => cases hi; cases hk; exact absurd hj List.not_mem_nil
    | 1 => cases hi; cases hk; exact absurd hj List.not_mem_nil
    | i + 2 => exact nomatch hi
  linked := by
    intro i node ref j hi href hj
    match i with
    | 0 => cases hi; cases href; cases hj; decide +kernel
    | 1 => cases hi; exact nomatch href
    | i + 2 => exact nomatch hi

theorem linked_crossing : crossing.Linked := by
  intro i node ref hi href
  match i with
  | 0 => cases hi; cases href; exact ⟨1, rfl⟩
  | 1 => cases hi; exact nomatch href
  | i + 2 => exact nomatch hi

/-- The document from two places, and the reference with one more frame than the document. -/
theorem evaluation_anywhere_crossing :
    crossing.Sound ∧ crossing.Linked ∧
    (∃ seen : List Relative,
      seen.map (·.seenFrom ⟨["x"], [⟨"urn:s", ["p"]⟩, ⟨"", []⟩]⟩) =
        [⟨⟨["x"]⟩, ⟨["p", "const"]⟩, "urn:s"⟩, ⟨⟨["x"]⟩, ⟨["p", "type"]⟩, "urn:s"⟩] ∧
      ((within crossing 3 (steps crossing 3) 1 .null (.none 0)).run
        ⟨[], [⟨"", []⟩]⟩).1 = .ok { found := seen.map (·.seenFrom ⟨[], [⟨"", []⟩]⟩), cap := 0 }) ∧
    crossing.evaluate 2 0 ⟨"urn:a", []⟩ 0 .null =
      .ok [⟨.root, ⟨["const"]⟩, ""⟩, ⟨.root, ⟨["type"]⟩, ""⟩] := by
  obtain ⟨hplaces, href⟩ := evaluation_anywhere sound_crossing linked_crossing
  have hdeep : ((within crossing 4 (steps crossing 4) 1 .null (.none 0)).run
      ⟨["x"], [⟨"urn:s", ["p"]⟩, ⟨"", []⟩]⟩).1 = .ok {
        found := [⟨⟨["x"]⟩, ⟨["p", "const"]⟩, "urn:s"⟩, ⟨⟨["x"]⟩, ⟨["p", "type"]⟩, "urn:s"⟩]
        cap := 0 } := by
    decide +kernel
  have hdirect : crossing.evaluate 1 0 ⟨"", []⟩ 1 .null =
      .ok [⟨.root, ⟨["const"]⟩, ""⟩, ⟨.root, ⟨["type"]⟩, ""⟩] := by
    decide +kernel
  refine ⟨sound_crossing, linked_crossing, ?_, ?_⟩
  · rcases hplaces 1 .null 0 ⟨["x"], [⟨"urn:s", ["p"]⟩, ⟨"", []⟩]⟩ ⟨[], [⟨"", []⟩]⟩ 4 3
      (by decide) (List.cons_ne_nil _ _) (List.cons_ne_nil _ _) rfl with
      ⟨seen, hok, hok'⟩ | ⟨he, _⟩
    · rw [hok] at hdeep
      exact ⟨seen, congrArg Violations.found (Except.ok.inj hdeep), congrArg Prod.fst hok'⟩
    · rw [he] at hdeep
      exact nomatch hdeep
  · rcases href 0 _ _ 1 1 0 ⟨"urn:a", []⟩ .null rfl rfl (by decide +kernel) (Nat.le_refl 1) with
      ⟨es, hok, hok'⟩ | ⟨_, he⟩
    · rw [← hdirect]
      exact hok.trans hok'.symm
    · exact nomatch hdirect.symm.trans he

end JsonSchema
