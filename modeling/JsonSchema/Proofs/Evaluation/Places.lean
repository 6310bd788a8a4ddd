import JsonSchema.Proofs.Evaluation.Task

/-!
# An evaluation leaves its places as it found them

Every step down in the instance or in a document is undone on the way back, whether there was an
answer or not. A computation that leaves the places alone is a function of them: `Eval.Reads m f`
says that `m` answers `f s` when it is run at `s`, and is at `s` again afterwards. If the build asks
for frames, this is said of places with a frame; frames are kept, so no step is taken without one.

`Eval.keywords_reads` says this of the evaluation of a node, and says which function it is:
performing the tasks of the node in turn. Everything that is said about evaluation below is said
about these functions.
-/

namespace JsonSchema

namespace EvalStack

/-- The places below the current ones. -/
def below (s : EvalStack) (tokens : List String) (token : Option String) : EvalStack :=
  match token with
  | none => tokens.foldl pushToken s
  | some token => (tokens.foldl pushToken s).pushInstance token

theorem popToken_pushToken (s : EvalStack) (token : String) :
    (s.pushToken token).popToken = s := by
  obtain ⟨path, frames⟩ := s
  cases frames with
  | nil => rfl
  | cons frame rest => simp [pushToken, popToken]

theorem popInstance_pushInstance (s : EvalStack) (token : String) :
    (s.pushInstance token).popInstance = s := by
  simp [pushInstance, popInstance]

theorem popFrame_pushFrame (s : EvalStack) (frame : Frame) :
    (s.pushFrame frame).popFrame = s := rfl

@[simp] theorem depth_pushToken (s : EvalStack) (token : String) :
    (s.pushToken token).depth = s.depth := by
  obtain ⟨path, frames⟩ := s
  cases frames <;> rfl

@[simp] theorem depth_pushFrame (s : EvalStack) (frame : Frame) :
    (s.pushFrame frame).depth = s.depth + 1 := rfl

/-- Going down takes no frame. -/
@[simp] theorem depth_below (s : EvalStack) (tokens : List String) (token : Option String) :
    (s.below tokens token).depth = s.depth := by
  have h : ∀ s : EvalStack, (tokens.foldl pushToken s).depth = s.depth := by
    induction tokens with
    | nil => intro s; rfl
    | cons t rest ih => intro s; rw [List.foldl_cons, ih, depth_pushToken]
  cases token with
  | none => exact h s
  | some t => exact h s

/-- Steps down in a document can be taken: there is a frame, or the build asks for none. -/
def Admits [Build] (s : EvalStack) : Prop :=
  s.frames ≠ [] ∨ ∀ s token, Build.unframed s token = .ok (s.pushToken token)

theorem admits_of_frames [Build] {s : EvalStack} (h : s.frames ≠ []) : s.Admits := .inl h

theorem admits_release (s : EvalStack) : s.Admits := .inr fun _ _ => rfl

section

variable [Build] {s : EvalStack}

theorem Admits.stepDown (h : s.Admits) (token : String) :
    Eval.stepDown s token = .ok (s.pushToken token) := by
  unfold Eval.stepDown
  split
  · rename_i hempty
    exact (h.resolve_left fun hframes => hframes (List.isEmpty_iff.mp hempty)) s token
  · rfl

/-- Frames are kept on every way down. -/
theorem Admits.pushToken (h : s.Admits) (token : String) : (s.pushToken token).Admits := by
  refine h.imp (fun hframes => ?_) id
  obtain ⟨path, frames⟩ := s
  cases frames with
  | nil => exact absurd rfl hframes
  | cons frame rest => exact List.cons_ne_nil _ _

theorem Admits.pushInstance (h : s.Admits) (token : String) : (s.pushInstance token).Admits := h

theorem Admits.pushFrame (s : EvalStack) (frame : Frame) : (s.pushFrame frame).Admits :=
  .inl (List.cons_ne_nil frame s.frames)

end

end EvalStack

namespace Eval

theorem run_between {α : Type} {m : Eval α} {enter : EvalStack → Except EvalError EvalStack}
    {leave : EvalStack → EvalStack} {s s' : EvalStack} (h : enter s = .ok s') :
    (between enter leave m).run s = ((m.run s').1, leave (m.run s').2) := by
  show between enter leave m s = _
  unfold between ExceptT.mk
  dsimp only
  rw [h]
  rfl

section

variable [Build] {α β : Type}

/-- The computation answers as the function of the places does, and leaves the places alone, where
steps down can be taken. -/
def Reads (m : Eval α) (f : EvalStack → Except EvalError α) : Prop :=
  ∀ s, s.Admits → m.run s = (f s, s)

theorem reads_pure (a : α) : Reads (pure a) (fun _ => .ok a) := fun _ _ => rfl

theorem reads_throw (e : EvalError) : Reads (throw e : Eval α) (fun _ => .error e) :=
  fun _ _ => rfl

/-- One computation after another, the second run where the first one was. -/
theorem Reads.bind {m : Eval α} {f : EvalStack → Except EvalError α} {k : α → Eval β}
    {g : α → EvalStack → Except EvalError β} (hm : Reads m f) (hk : ∀ a, Reads (k a) (g a)) :
    Reads (m >>= k) (fun s => f s >>= fun a => g a s) := by
  intro s hs
  show (ExceptT.bindCont k (m s).1) (m s).2 = _
  rw [show m s = (f s, s) from hm s hs]
  show _ = (f s >>= fun a => g a s, s)
  cases f s with
  | ok a => exact hk a s hs
  | error e => rfl

theorem Reads.congr {m : Eval α} {f g : EvalStack → Except EvalError α} (h : Reads m f)
    (hfg : ∀ s, f s = g s) : Reads m g := by
  intro s hs; rw [h s hs, hfg s]

/-- A computation between a step and its inverse. -/
theorem Reads.between {m : Eval α} {f : EvalStack → Except EvalError α}
    {enter : EvalStack → Except EvalError EvalStack} {step leave : EvalStack → EvalStack}
    (hm : Reads m f) (henter : ∀ s, s.Admits → enter s = .ok (step s) ∧ (step s).Admits)
    (h : ∀ s, leave (step s) = s) : Reads (between enter leave m) (fun s => f (step s)) := by
  intro s hs
  obtain ⟨hstep, hadmits⟩ := henter s hs
  rw [run_between hstep, hm (step s) hadmits]
  exact Prod.ext rfl (h s)

theorem Reads.belowTokens {m : Eval α} {f : EvalStack → Except EvalError α} (hm : Reads m f)
    (tokens : List String) :
    Reads (belowTokens tokens m) (fun s => f (tokens.foldl EvalStack.pushToken s)) := by
  induction tokens with
  | nil => exact hm
  | cons token rest ih =>
      exact ih.between (fun s hs => ⟨hs.stepDown token, hs.pushToken token⟩)
        fun s => s.popToken_pushToken token

theorem Reads.belowPlaces {m : Eval α} {f : EvalStack → Except EvalError α} (hm : Reads m f)
    (tokens : List String) (token : Option String) :
    Reads (Eval.belowTokens tokens (belowInstance token m))
      (fun s => f (s.below tokens token)) := by
  cases token with
  | none => exact hm.belowTokens tokens
  | some t =>
      have h : Reads (belowInstance (some t) m) (fun s => f (s.pushInstance t)) :=
        hm.between (fun s hs => ⟨rfl, hs.pushInstance t⟩) fun s => s.popInstance_pushInstance t
      exact h.belowTokens tokens

theorem report_reads (tokens : List String) (out : Violations) :
    Reads (report tokens out) (fun s => .ok (out.add (s.below tokens none).violation)) := by
  have h : Reads (do let s ← places; return out.add s.violation)
      (fun s => .ok (out.add s.violation)) := fun _ _ => rfl
  exact h.belowTokens tokens

/-! ## The site of an evaluation -/

/-- A node evaluated at some places: its index, the value, and what was found before. -/
abbrev Answers := EvalStack → Nat → Value → Violations → Except EvalError Violations

/-- What performing the tasks of a node at some places takes, when `answers` evaluates nodes. -/
def site (limit : Nat) (answers : Answers) (s : EvalStack) : Site Nat where
  violation tokens := (s.below tokens none).violation
  evaluate b out := answers (s.below b.tokens b.token) b.schema b.value out
  follow target schema v out :=
    match schema with
    | none => .error (.unlinked target.key)
    | some index =>
      if limit ≤ s.depth then .error (.stackOverflow limit)
      else answers (s.pushFrame ⟨target.base.text, target.pointer.tokens⟩) index v out

section

variable {limit : Nat} {evaluate : Nat → Value → Violations → Eval Violations} {answers : Answers}

/-- The function that performing tasks is. -/
abbrev performs (limit : Nat) (answers : Answers) (tasks : List (Task Nat)) (out : Violations)
    (s : EvalStack) : Except EvalError Violations :=
  (site limit answers s).performAll tasks out

theorem nil_reads (out : Violations) : Reads (pure out) (performs limit answers [] out) :=
  fun _ _ => rfl

/-- Tasks after tasks. -/
theorem append_reads {m : Eval Violations} {k : Violations → Eval Violations}
    {l l' : List (Task Nat)} {out : Violations} (hm : Reads m (performs limit answers l out))
    (hk : ∀ out, Reads (k out) (performs limit answers l' out)) :
    Reads (m >>= k) (performs limit answers (l ++ l') out) :=
  (hm.bind hk).congr fun _ => (Site.performAll_append _ l l' out).symm

/-- A loop whose rounds perform tasks. -/
theorem foldlM_reads {step : Violations → α → Eval Violations} {tasks : α → List (Task Nat)}
    (h : ∀ a out, Reads (step out a) (performs limit answers (tasks a) out)) (l : List α)
    (out : Violations) :
    Reads (l.foldlM step out) (performs limit answers (l.flatMap tasks) out) := by
  induction l generalizing out with
  | nil => exact nil_reads out
  | cons a rest ih =>
      rw [List.foldlM_cons, List.flatMap_cons]
      exact append_reads (h a out) ih

theorem foldlM_map_reads {step : Violations → α → Eval Violations} {task : α → Task Nat}
    (h : ∀ a out, Reads (step out a) (performs limit answers [task a] out)) (l : List α)
    (out : Violations) :
    Reads (l.foldlM step out) (performs limit answers (l.map task) out) := by
  rw [List.map_eq_flatMap]
  exact foldlM_reads h l out

theorem reportIf_reads (violated : Bool) (tokens : List String) (out : Violations) :
    Reads (reportIf violated tokens out)
      (performs limit answers [.check violated tokens] out) := by
  cases violated with
  | false => exact fun _ _ => rfl
  | true => exact report_reads tokens out

/-! ## The keywords -/

theorem number_reads (rules : NumberRules) (n : Number) (out : Violations) :
    Reads (number rules n out) (performs limit answers (rules.tasks n) out) :=
  append_reads (l := [_]) (reportIf_reads _ _ out) fun _ =>
    append_reads (l := [_]) (reportIf_reads _ _ _) fun _ =>
      append_reads (l := [_]) (reportIf_reads _ _ _) fun _ =>
        append_reads (l := [_]) (reportIf_reads _ _ _) fun _ => reportIf_reads _ _ _

theorem string_reads (rules : StringRules) (s : String) (out : Violations) :
    Reads (string rules s out) (performs limit answers (rules.tasks s) out) :=
  append_reads (l := [_]) (reportIf_reads _ _ out) fun _ =>
    append_reads (l := [_]) (reportIf_reads _ _ _) fun _ => reportIf_reads _ _ _

theorem somePasses_reads {trial : α → Eval Bool} {branch : α → Branch Nat}
    (ht : ∀ a, Reads (trial a) (fun s => (site limit answers s).passes (branch a)))
    (l : List α) :
    Reads (somePasses trial l) (fun s => (site limit answers s).somePasses (l.map branch)) := by
  induction l with
  | nil => exact reads_pure false
  | cons a rest ih =>
      refine (ht a).bind fun passed => ?_
      cases passed with
      | true => exact reads_pure true
      | false => exact ih

theorem onePasses_reads {trial : α → Eval Bool} {branch : α → Branch Nat}
    (ht : ∀ a, Reads (trial a) (fun s => (site limit answers s).passes (branch a)))
    (l : List α) :
    Reads (onePasses trial l) (fun s => (site limit answers s).onePasses (l.map branch)) := by
  induction l with
  | nil => exact reads_pure false
  | cons a rest ih =>
      refine (ht a).bind fun passed => ?_
      cases passed with
      | true => exact (somePasses_reads ht rest).bind fun other => reads_pure (!other)
      | false => exact ih

/-- A trial of any kind, and the violation if it did not go as it must. -/
theorem reportUnless_reads {m : Eval Bool} {f : EvalStack → Except EvalError Bool}
    (hm : Reads m f) (flip : Bool → Bool) (tokens : List String) (out : Violations)
    (task : Task Nat)
    (ht : ∀ s, (site limit answers s).perform task out =
      f s >>= fun passed => .ok ((site limit answers s).reportIf (flip passed) tokens out)) :
    Reads (do let passed ← m; reportIf (flip passed) tokens out)
      (performs limit answers [task] out) := by
  have hreport := fun passed => @reportIf_reads _ limit answers (flip passed) tokens out
  refine (hm.bind hreport).congr fun s => ?_
  rw [performs, Site.performAll_singleton, ht s]
  cases f s with
  | ok passed => exact Site.performAll_singleton (site limit answers s) (.check _ tokens) out
  | error e => rfl

theorem requireNames_reads (members : Members Value) (tokens names : List String)
    (out : Violations) :
    Reads (requireNames members tokens names out)
      (performs limit answers (requireTasks members tokens names) out) :=
  foldlM_map_reads (fun p out => reportIf_reads (!members.has p.1) _ out) _ out

variable (h : ∀ i v out, Reads (evaluate i v out) (fun s => answers s i v out))
include h

theorem descend_reads (tokens : List String) (token : Option String) (i : Nat) (v : Value)
    (out : Violations) :
    Reads (descend evaluate tokens token i v out)
      (performs limit answers [.descend ⟨tokens, token, i, v⟩] out) := by
  refine ((h i v out).belowPlaces tokens token).congr fun s => ?_
  rw [performs, Site.performAll_singleton]
  rfl

theorem descendIf_reads (tokens : List String) (token : Option String) (i : Option Nat)
    (v : Value) (out : Violations) :
    Reads (descendIf evaluate tokens token i v out)
      (performs limit answers (i.toList.map fun j => .descend ⟨tokens, token, j, v⟩) out) := by
  cases i with
  | none => exact nil_reads out
  | some j => exact descend_reads h tokens token j v out

theorem passes_reads (tokens : List String) (token : Option String) (i : Nat) (v : Value) :
    Reads (passes evaluate tokens token i v)
      (fun s => (site limit answers s).passes ⟨tokens, token, i, v⟩) :=
  ((h i v (.none 1)).belowPlaces tokens token).bind fun out => reads_pure out.isEmpty

theorem follow_reads (ref : Reference) (v : Value) (out : Violations) :
    Reads (follow evaluate limit ref v out)
      (performs limit answers [.follow ref.target ref.resolved v] out) := by
  intro s hs
  rw [performs, Site.performAll_singleton]
  show follow evaluate limit ref v out s = ((site limit answers s).follow _ _ _ _, s)
  unfold follow
  cases ref.resolved with
  | none => rfl
  | some index =>
      show (if limit ≤ s.depth then throw (.stackOverflow limit) else _ : Eval Violations) s = _
      -- a frame is pushed only if there is one left, and is popped afterwards
      by_cases hd : limit ≤ s.depth
      · simp only [site, if_pos hd]; rfl
      · simp only [site, if_neg hd]
        exact (h index v out).between (fun s _ => ⟨rfl, .pushFrame s _⟩)
          (fun s => s.popFrame_pushFrame _) s hs

theorem negated_reads (k : Combinators) (v : Value) (out : Violations) :
    Reads (negated evaluate k v out) (performs limit answers (k.negatedTasks v) out) := by
  unfold negated Combinators.negatedTasks
  cases k.negated with
  | none => exact nil_reads out
  | some i => exact reportUnless_reads (passes_reads h _ _ i v) id _ out _ fun _ => rfl

theorem conditional_reads (k : Combinators) (v : Value) (out : Violations) :
    Reads (conditional evaluate k v out) (performs limit answers (k.conditionalTasks v) out) := by
  unfold conditional Combinators.conditionalTasks
  cases k.condition with
  | none => exact nil_reads out
  | some i =>
      -- either branch may be absent, and then it performs no task
      have hbranch : ∀ passed : Bool, Reads
          (if passed then descendIf evaluate ["then"] none k.onPass v out
            else descendIf evaluate ["else"] none k.onFail v out)
          (fun s => if passed then
              (site limit answers s).descendIf (k.onPass.map fun j => ⟨["then"], none, j, v⟩) out
            else
              (site limit answers s).descendIf (k.onFail.map fun j => ⟨["else"], none, j, v⟩)
                out) := by
        intro passed
        cases passed with
        | true =>
            exact (descendIf_reads h _ _ k.onPass v out).congr fun s =>
              Site.performAll_toList _ _ _ _
        | false =>
            exact (descendIf_reads h _ _ k.onFail v out).congr fun s =>
              Site.performAll_toList _ _ _ _
      have hpass := @passes_reads _ limit evaluate answers h ["if"] none i v
      refine (hpass.bind hbranch).congr fun s => ?_
      rw [performs, Site.performAll_singleton]
      rfl

theorem listLoop_reads (keyword : String) (schemas : List Nat) (v : Value) (out : Violations) :
    Reads
      (schemas.zipIdx.foldlM (fun out (index, i) =>
        descend evaluate [keyword, toString i] none index v out) out)
      (performs limit answers ((Combinators.listBranches keyword schemas v).map .descend) out) := by
  unfold Combinators.listBranches
  rw [List.map_map]
  exact foldlM_map_reads (fun p out => descend_reads h _ _ p.1 v out) _ out

theorem anyOf_reads (schemas : List Nat) (v : Value) (out : Violations) :
    Reads
      (do
        let passed ← somePasses (fun (index, i) =>
          passes evaluate ["anyOf", toString i] none index v) schemas.zipIdx
        reportIf (!passed) ["anyOf"] out)
      (performs limit answers [.some (Combinators.listBranches "anyOf" schemas v) ["anyOf"]] out) :=
  reportUnless_reads (somePasses_reads (fun (p : Nat × Nat) => passes_reads h _ _ p.1 v) _)
    (fun b => !b) _ out _ fun _ => rfl

theorem oneOf_reads (schemas : List Nat) (v : Value) (out : Violations) :
    Reads
      (do
        let passed ← onePasses (fun (index, i) =>
          passes evaluate ["oneOf", toString i] none index v) schemas.zipIdx
        reportIf (!passed) ["oneOf"] out)
      (performs limit answers [.one (Combinators.listBranches "oneOf" schemas v) ["oneOf"]] out) :=
  reportUnless_reads (onePasses_reads (fun (p : Nat × Nat) => passes_reads h _ _ p.1 v) _)
    (fun b => !b) _ out _ fun _ => rfl

/-- The keyword `oneOf`, if it is present. -/
theorem oneOf?_reads (o : Option (List Nat)) (v : Value) (out : Violations) :
    Reads
      (match o with
        | none => return out
        | some schemas => do
          let passed ← onePasses (fun (index, i) =>
            passes evaluate ["oneOf", toString i] none index v) schemas.zipIdx
          reportIf (!passed) ["oneOf"] out)
      (performs limit answers
        (match o with
          | none => []
          | some schemas => [.one (Combinators.listBranches "oneOf" schemas v) ["oneOf"]])
        out) := by
  cases o with
  | none => exact nil_reads out
  | some schemas => exact oneOf_reads h schemas v out

theorem lists_reads (k : Combinators) (v : Value) (out : Violations) :
    Reads (lists evaluate k v out) (performs limit answers (k.listTasks v) out) := by
  unfold lists Combinators.listTasks
  rw [List.append_assoc]
  refine append_reads (listLoop_reads h "allOf" _ v out) fun out => ?_
  have hone := @oneOf?_reads _ limit evaluate answers h k.oneOf v
  cases k.anyOf with
  | none => exact append_reads (nil_reads out) hone
  | some schemas =>
      -- the report of `anyOf` comes before `oneOf`, which the task list keeps apart
      have hany := append_reads (anyOf_reads h schemas v out) hone
      rw [bind_assoc] at hany
      exact hany

theorem elements_reads (rules : ArrayRules) (items : List Value) (out : Violations) :
    Reads (elements evaluate rules items out)
      (performs limit answers ((rules.elementBranches items).map .descend) out) := by
  unfold elements ArrayRules.elementBranches
  cases rules.items with
  | none => exact nil_reads out
  | some form =>
      cases form with
      | all j =>
          rw [List.map_map]
          exact foldlM_map_reads (fun p out => descend_reads h _ _ j p.1 out) _ out
      | positional schemas =>
          rw [List.map_append, List.map_map, List.map_flatMap]
          refine append_reads
            (foldlM_map_reads (fun p out => descend_reads h _ _ p.1.1 p.1.2 out) _ out)
            fun out => ?_
          refine foldlM_reads (fun p out => ?_) _ out
          rw [List.map_map]
          exact descendIf_reads h _ _ rules.additionalItems p.1 out

theorem array_reads (rules : ArrayRules) (items : List Value) (out : Violations) :
    Reads (array evaluate rules items out) (performs limit answers (rules.tasks items) out) := by
  unfold array ArrayRules.tasks
  rw [List.append_assoc]
  refine append_reads (elements_reads h rules items out) fun out => ?_
  refine append_reads (l := [_]) (reportIf_reads _ _ out) fun out => ?_
  refine append_reads (l := [_]) (reportIf_reads _ _ out) fun out => ?_
  refine append_reads (l := [_]) (reportIf_reads _ _ out) fun out => ?_
  cases rules.contains with
  | none => exact nil_reads out
  | some j =>
      exact reportUnless_reads
        (somePasses_reads (fun (p : Value × Nat) => passes_reads h _ _ j p.1) _) (fun b => !b) _ out
        _ fun _ => rfl

theorem member_reads (rules : ObjectRules) (name : String) (v : Value) (out : Violations) :
    Reads (member evaluate rules name v out)
      (performs limit answers ((rules.memberBranches name v).map .descend) out) := by
  unfold member ObjectRules.memberBranches
  rw [List.map_append, List.map_append, List.map_map, List.map_map, List.append_assoc]
  refine append_reads (descendIf_reads h _ _ (rules.own? name) v out) fun out => ?_
  refine append_reads (foldlM_map_reads (fun p out => descend_reads h _ _ p.2 v out) _ out)
    fun out => ?_
  -- both ask whether `properties` and `patternProperties` leave the name over
  show Reads (if rules.isAdditional name then _ else _) _
  by_cases hm : rules.isAdditional name = true
  · rw [if_pos hm, if_pos hm, List.map_map]
    exact descendIf_reads h _ _ rules.additionalProperties v out
  · rw [if_neg hm, if_neg hm]
    exact nil_reads out

theorem dependency_reads (members : Members Value) (name : String) (d : Dependency)
    (out : Violations) :
    Reads (dependency evaluate members name d out)
      (performs limit answers (ObjectRules.dependencyTasks members name d) out) := by
  unfold dependency ObjectRules.dependencyTasks
  by_cases hn : members.has name = true
  · rw [if_pos hn, if_pos hn]
    cases d with
    | schema j => exact descend_reads h _ none j _ out
    | required names => exact requireNames_reads members _ names out
  · rw [if_neg hn, if_neg hn]
    exact nil_reads out

theorem object_reads (rules : ObjectRules) (members : Members Value) (out : Violations) :
    Reads (object evaluate rules members out)
      (performs limit answers (rules.tasks members) out) := by
  unfold object ObjectRules.tasks
  simp only [List.append_assoc]
  refine append_reads (l := [_]) (reportIf_reads _ _ out) fun out => ?_
  refine append_reads (l := [_]) (reportIf_reads _ _ out) fun out => ?_
  refine append_reads (requireNames_reads members _ _ out) fun out => ?_
  refine append_reads (foldlM_reads (fun p out => member_reads h rules p.1 p.2 out) _ out)
    fun out => ?_
  refine append_reads (foldlM_reads (fun p out => dependency_reads h members p.1 p.2 out) _ out)
    fun out => ?_
  cases rules.propertyNames with
  | none => exact nil_reads out
  | some j =>
      exact foldlM_map_reads (fun p out => descend_reads h _ _ j (.string p.1) out) _ out

theorem shaped_reads (k : Keywords) (v : Value) (out : Violations) :
    Reads (shaped evaluate k v out) (performs limit answers (k.shapedTasks v) out) := by
  cases v with
  | null => exact nil_reads out
  | bool b => exact nil_reads out
  | number n => exact number_reads k.numbers n out
  | string s => exact string_reads k.strings s out
  | array items => exact array_reads h k.arrays items out
  | object members => exact object_reads h k.objects members out

/-- Evaluating the keywords of a node is performing its tasks. -/
theorem keywords_reads (k : Keywords) (v : Value) (out : Violations) :
    Reads (keywords evaluate limit k v out) (performs limit answers (k.tasks v) out) := by
  -- all but the reference, in the order of evaluation
  have hown : ∀ out, Reads
      (do
        let out ← negated evaluate k.combinators v out
        let out ← conditional evaluate k.combinators v out
        let out ← reportIf (k.const.any fun c => !c.same v) ["const"] out
        let out ← reportIf (k.enum.any fun values => !values.any fun c => c.same v) ["enum"] out
        let out ← lists evaluate k.combinators v out
        let out ← reportIf (k.types.any fun types => !types.any fun t => t.accepts v) ["type"] out
        shaped evaluate k v out)
      (performs limit answers (k.ownTasks v) out) := by
    intro out
    unfold Keywords.ownTasks
    simp only [List.append_assoc]
    refine append_reads (negated_reads h k.combinators v out) fun out => ?_
    refine append_reads (conditional_reads h k.combinators v out) fun out => ?_
    refine append_reads (l := [_]) (reportIf_reads _ _ out) fun out => ?_
    refine append_reads (l := [_]) (reportIf_reads _ _ out) fun out => ?_
    refine append_reads (lists_reads h k.combinators v out) fun out => ?_
    refine append_reads (l := [_]) (reportIf_reads _ _ out) fun out => ?_
    exact shaped_reads h k v out
  unfold keywords Keywords.tasks Keywords.refTasks
  cases k.ref with
  | none => exact append_reads (nil_reads out) hown
  | some ref => exact append_reads (follow_reads h ref v out) hown

end

/-! ## Nodes -/

/-- The answer for a node, when `answers` evaluates the nodes that it refers to. -/
def nodeAnswer (registry : Registry) (limit : Nat) (answers : Answers) : Answers :=
  fun s index v out =>
    if out.isFull then .ok out
    else
      match registry.get? index with
      | none => .error (.noNode index)
      | some node =>
        match node.body with
        | .bool true => .ok out
        | .bool false => .ok (out.add s.violation)
        | .keywords k => (site limit answers s).performAll (k.tasks v) out

/-- The answer of `Eval.within`. -/
def answerWithin (registry : Registry) (limit : Nat) : Nat → Answers
  | 0 => nodeAnswer registry limit fun _ index _ _ => .error (.noNode index)
  | steps + 1 => nodeAnswer registry limit (answerWithin registry limit steps)

theorem node_reads {registry : Registry} {limit : Nat}
    {evaluate : Nat → Value → Violations → Eval Violations} {answers : Answers}
    (h : ∀ i v out, Reads (evaluate i v out) (fun s => answers s i v out))
    (i : Nat) (v : Value) (out : Violations) :
    Reads (node evaluate registry limit i v out)
      (fun s => nodeAnswer registry limit answers s i v out) := by
  unfold node nodeAnswer
  by_cases hf : out.isFull = true
  · simp only [if_pos hf]; exact reads_pure out
  · simp only [if_neg hf]
    cases registry.get? i with
    | none => exact reads_throw _
    | some node =>
        obtain ⟨uri, body⟩ := node
        cases body with
        | bool b =>
            cases b with
            | true => exact reads_pure out
            | false => exact report_reads [] out
        | keywords k => exact keywords_reads h k v out

theorem within_reads (registry : Registry) (limit steps i : Nat) (v : Value) (out : Violations) :
    Reads (within registry limit steps i v out)
      (fun s => answerWithin registry limit steps s i v out) := by
  induction steps generalizing i v out with
  | zero => exact node_reads (fun i _ _ => reads_throw (.noNode i)) i v out
  | succ steps ih => exact node_reads ih i v out

end

/-- What a trial answers. -/
theorem passes_run (registry : Registry) (limit steps : Nat) (s : EvalStack)
    (b : Branch Nat) :
    ((passes (within registry limit steps) b.tokens b.token b.schema b.value).run s).1 =
      (site limit (answerWithin registry limit steps) s).passes b := by
  rw [@passes_reads _ limit _ _ (within_reads registry limit steps) b.tokens b.token b.schema
    b.value s s.admits_release]

/-- What evaluation of a sub-schema answers. -/
theorem descend_run (registry : Registry) (limit steps : Nat) (s : EvalStack) (b : Branch Nat)
    (out : Violations) :
    ((descend (within registry limit steps) b.tokens b.token b.schema b.value out).run s).1 =
      (site limit (answerWithin registry limit steps) s).evaluate b out := by
  rw [@descend_reads _ limit _ _ (within_reads registry limit steps) b.tokens b.token b.schema
    b.value out s s.admits_release]
  exact Site.performAll_singleton _ _ _

end Eval

/-- Evaluation from a start frame, as a function of the places. -/
theorem Registry.evaluate_eq (registry : Registry) (limit cap : Nat) (frame : Frame) (i : Nat)
    (v : Value) :
    registry.evaluate limit cap frame i v =
      (Eval.answerWithin registry limit (Eval.steps registry limit)
        (EvalStack.empty.pushFrame frame) i v (.none cap)).map Violations.found := by
  unfold Registry.evaluate
  dsimp only
  rw [Eval.within_reads registry limit _ i v _ _ (EvalStack.admits_release _)]
  dsimp only
  cases Eval.answerWithin registry limit (Eval.steps registry limit)
    (EvalStack.empty.pushFrame frame) i v (.none cap) with
  | ok out => rfl
  | error e => rfl

end JsonSchema
