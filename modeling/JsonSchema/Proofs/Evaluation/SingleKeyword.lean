import JsonSchema.Proofs.Compilation.Roots
import JsonSchema.Proofs.Evaluation.Idle
import JsonSchema.Proofs.Evaluation.Termination
import JsonSchema.Validator

/-!
# Documents with a single keyword

What a keyword says is seen best in a document that has no other one. If the keyword takes no
schemas and is no reference, the document is compiled to a single node, and validation checks one
condition: the report is empty, or it names the keyword, whatever the limits are.
-/

namespace JsonSchema

namespace Site

/-- One check among idle tasks. -/
theorem performAll_check (site : Site Nat) {front back : List (Task Nat)}
    (hf : ∀ task ∈ front, Eval.Idle task) (hb : ∀ task ∈ back, Eval.Idle task) (violated : Bool)
    (tokens : List String) (out : Violations) :
    site.performAll (front ++ .check violated tokens :: back) out =
      .ok (site.reportIf violated tokens out) := by
  have hlast : site.performAll (.check violated tokens :: back) out =
      .ok (site.reportIf violated tokens out) := by
    rw [performAll_cons]
    exact Eval.performAll_of_idle hb _
  rw [performAll_append, Eval.performAll_of_idle hf]
  exact hlast

end Site

namespace Validator

open Compile

/-- The place of a document without `$id`. -/
def rootPlace : Target := { base := .anonymous, pointer := .root }

/-- The validator of a document that becomes a single node. -/
def single (k : Keywords) (config : Config) : Validator where
  bundle := {
    registry := { nodes := #[{ uri := "", body := .keywords k }], byUri := [("", 0)] }
    roots := [⟨.anonymous, 0⟩] }
  config := config

/-- A document without `$id` is compiled as a schema at its root. -/
theorem run_compileRoot_anonymous {members : Members Value} {answer : Except SchemaError Nat}
    {registry : Registry} (hbase : documentBase .anonymous (.object members) = .ok .anonymous)
    (h : ∀ height, (within height rootPlace (.object members)).run .empty = (answer, registry)) :
    (compileRoot (.object members)).run .empty =
      (answer.map fun index => ⟨.anonymous, index⟩, registry) := by
  have hwithin := h (Value.object members).height
  unfold rootPlace at hwithin
  rw [run_compileRoot, hbase]
  dsimp only
  rw [hwithin]
  cases answer <;> rfl

/-- A document without `$id`, without a reference and without schemas inside it becomes a single
node. -/
theorem ofDocuments_single {members : Members Value} {k : Keywords}
    (hbase : documentBase .anonymous (.object members) = .ok .anonymous)
    (hk : keywords rootPlace members = pure k) (href : k.ref = none) (config : Config) :
    ofDocuments [.object members] config = .ok (single k config) := by
  have hwithin : ∀ height, (within height rootPlace (.object members)).run .empty =
      (.ok 0, (single k config).bundle.registry) := by
    intro height
    cases height <;>
    · unfold within schema
      dsimp only
      rw [hk]
      with_unfolding_all rfl
  have hroot := run_compileRoot_anonymous hbase hwithin
  have hadd : Bundle.Roots.add ⟨.empty, [], []⟩ (.object members) =
      .ok ⟨(single k config).bundle.registry, [⟨.anonymous, 0⟩], [("", .object members)]⟩ := by
    unfold Bundle.Roots.add
    rw [hroot]
    rfl
  have hroots : Bundle.compileRoots [.object members] =
      .ok ⟨(single k config).bundle.registry, [⟨.anonymous, 0⟩], [("", .object members)]⟩ := by
    unfold Bundle.compileRoots
    rw [List.foldlM_cons, hadd]
    rfl
  -- there is no reference to be linked
  have hlink : (single k config).bundle.registry.link =
      ([], (single k config).bundle.registry) := by
    obtain ⟨ref⟩ := k
    dsimp only at href
    subst href
    with_unfolding_all rfl
  unfold ofDocuments Bundle.ofDocuments
  rw [hroots]
  show (Bundle.Linking.passes _ _ _ >>= _) >>= _ = _
  unfold Bundle.Linking.passes
  dsimp only
  rw [hlink]
  rfl

/-- If a keyword is malformed, the document is rejected. -/
theorem ofDocuments_single_error {members : Members Value} {e : SchemaError}
    (hbase : documentBase .anonymous (.object members) = .ok .anonymous)
    (hk : keywords rootPlace members = .failed e) (config : Config) :
    ofDocuments [.object members] config = .error e := by
  have hwithin : ∀ height, (within height rootPlace (.object members)).run .empty =
      (.error e, .empty) := by
    intro height
    cases height <;>
    · unfold within schema
      dsimp only
      rw [hk]
      rfl
  have hroot := run_compileRoot_anonymous hbase hwithin
  have hadd : Bundle.Roots.add ⟨.empty, [], []⟩ (.object members) = .error e := by
    unfold Bundle.Roots.add
    rw [hroot]
    rfl
  have hroots : Bundle.compileRoots [.object members] = .error e := by
    unfold Bundle.compileRoots
    rw [List.foldlM_cons, hadd]
    rfl
  unfold ofDocuments Bundle.ofDocuments
  rw [hroots]
  rfl

/-- If the tasks of the node are idle but for one check, the report is empty, or it is about that
check. -/
theorem validate_single {k : Keywords} {v : Value} {violated : Bool} {keyword : String}
    {front back : List (Task Nat)} (hf : ∀ task ∈ front, Eval.Idle task)
    (hb : ∀ task ∈ back, Eval.Idle task)
    (htasks : k.tasks v = front ++ .check violated [keyword] :: back) (config : Config) :
    (single k config).validate v = .ok (if violated then [⟨⟨[]⟩, ⟨[keyword]⟩, ""⟩] else []) := by
  have hroom : ¬ (Violations.none config.maxErrors).isFull = true := by
    rw [Violations.not_isFull_iff]
    exact Nat.eq_zero_or_pos _
  have hnode : ∀ answers, (Eval.nodeAnswer (single k config).bundle.registry config.maxStackDepth
      answers (EvalStack.empty.pushFrame ⟨"", []⟩) 0 v (.none config.maxErrors)).map
        Violations.found = .ok (if violated then [⟨⟨[]⟩, ⟨[keyword]⟩, ""⟩] else []) := by
    intro answers
    unfold Eval.nodeAnswer
    rw [if_neg hroom]
    show (Site.performAll _ (k.tasks v) _).map _ = _
    rw [htasks, Site.performAll_check _ hf hb]
    unfold Site.reportIf Violations.add
    rw [if_neg hroom]
    cases violated <;> rfl
  show (single k config).bundle.registry.evaluate config.maxStackDepth config.maxErrors ⟨"", []⟩ 0 v
    = _
  rw [Registry.evaluate_eq]
  cases Eval.steps (single k config).bundle.registry config.maxStackDepth with
  | zero => exact hnode _
  | succ steps => exact hnode _

/-- The same, if all other tasks are checks of keywords that are absent. -/
theorem validate_amid {k : Keywords} {v : Value} {violated : Bool} {keyword : String}
    (front back : List String)
    (htasks : k.tasks v = front.map (fun keyword => .check false [keyword]) ++
      .check violated [keyword] :: back.map (fun keyword => .check false [keyword]))
    (config : Config) :
    (single k config).validate v = .ok (if violated then [⟨⟨[]⟩, ⟨[keyword]⟩, ""⟩] else []) :=
  validate_single (Eval.idle_checks front) (Eval.idle_checks back) htasks config

end Validator

end JsonSchema
