import JsonSchema.Proofs.Compilation.History
import JsonSchema.Proofs.Evaluation.Places

/-!
# Steps down are taken in a frame and undone

That an evaluation is back where it started when it is over, with an answer or without, says nothing
of the steps that it took on the way. A step down in a document takes a frame, the one of the
document. Without a frame the step would do nothing, and the step back up would be lost as well.

What a step without a frame comes to depends on the build. It may do nothing, or fail, or lead
anywhere else. From places with a frame on evaluation is the same in all builds: no step is ever
taken without one.
-/

namespace JsonSchema

namespace Eval

/-- From places with a frame on the computation is where it was afterwards, with an answer or with
an error; and it is the same in every build, whatever a step without a frame comes to there. -/
def Balanced {α : Type} (m : Build → Eval α) : Prop :=
  ∀ s, s.frames ≠ [] → ∀ build,
    ((m build).run s).2 = s ∧ (m build).run s = (m .release).run s

/-- What reads the places in the same way in all builds is balanced. -/
theorem balanced_of_reads {α : Type} {m : Build → Eval α} {f : EvalStack → Except EvalError α}
    (h : ∀ build : Build, Reads (m build) f) : Balanced m := by
  intro s hs build
  have hrun : ∀ build, (m build).run s = (f s, s) :=
    fun build => h build s (EvalStack.admits_of_frames hs)
  rw [hrun build, hrun .release]
  exact ⟨rfl, rfl⟩

end Eval

open Eval

/-- **The places are balanced in all parts of an evaluation**: of a node, a reference, a sub-schema,
a trial, a report, the lists of schemas, an array and an object. -/
theorem evaluation_balanced (registry : Registry) (limit steps : Nat) :
    let evaluate (build : Build) := @within build registry limit steps
    (∀ i v out, Balanced fun build => evaluate build i v out) ∧
    (∀ ref v out, Balanced fun build => follow (evaluate build) limit ref v out) ∧
    (∀ tokens token i v out, Balanced fun build =>
      descend (evaluate build) tokens token i v out) ∧
    (∀ tokens token i v, Balanced fun build => passes (evaluate build) tokens token i v) ∧
    (∀ tokens out, Balanced fun build => @report build tokens out) ∧
    (∀ k v out, Balanced fun build => lists (evaluate build) k v out) ∧
    (∀ rules items out, Balanced fun build => array (evaluate build) rules items out) ∧
    ∀ rules members out, Balanced fun build => object (evaluate build) rules members out := by
  intro evaluate
  have h : ∀ build : Build, ∀ i v out, Reads (evaluate build i v out)
      (fun s => answerWithin registry limit steps s i v out) :=
    fun _ => within_reads registry limit steps
  refine ⟨fun i v out => ?_, fun ref v out => ?_, fun tokens token i v out => ?_,
    fun tokens token i v => ?_, fun tokens out => ?_, fun k v out => ?_,
    fun rules items out => ?_, fun rules members out => ?_⟩
  · exact balanced_of_reads fun build => h build i v out
  · exact balanced_of_reads fun build => @follow_reads _ limit _ _ (h build) ref v out
  · exact balanced_of_reads fun build =>
      @descend_reads _ limit _ _ (h build) tokens token i v out
  · exact balanced_of_reads fun build => @passes_reads _ limit _ _ (h build) tokens token i v
  · exact balanced_of_reads fun _ => report_reads tokens out
  · exact balanced_of_reads fun build => @lists_reads _ limit _ _ (h build) k v out
  · exact balanced_of_reads fun build => @array_reads _ limit _ _ (h build) rules items out
  · exact balanced_of_reads fun build => @object_reads _ limit _ _ (h build) rules members out

/-- Without a frame a build that checks assertions reports nothing. -/
example (failure : EvalError) :
    (@report (.debug failure) ["type"] (.none 0)).run .empty = (.error failure, .empty) := rfl

open Registry in
/-- In a build that checks assertions, a violation is found where a reference leads, and the frame
of the start is there again afterwards. So it is, too, when there is no frame left for the
reference. -/
theorem evaluation_balanced_interrupted :
    let registry := after (interrupted ++ [.link])
    let build : Build := .debug (.noNode 0)
    let s : EvalStack := EvalStack.empty.pushFrame ⟨"urn:b", ["x"]⟩
    let found : Violations := { found := [⟨.root, ⟨["not"]⟩, ""⟩], cap := 0 }
    s.frames ≠ [] ∧ (@within build registry 2 9 1 .null (.none 0)).run s = (.ok found, s) ∧
      (@within build registry 1 9 1 .null (.none 0)).run s = (.error (.stackOverflow 1), s) := by
  intro registry build s found
  have hs : s.frames ≠ [] := List.cons_ne_nil _ _
  obtain ⟨hnode, _⟩ := evaluation_balanced registry 2 9
  obtain ⟨hnode', _⟩ := evaluation_balanced registry 1 9
  have hfound : (@within .release registry 2 9 1 .null (.none 0)).run s =
      ((.ok found, s) : Except EvalError Violations × EvalStack) := by with_unfolding_all rfl
  have hfails : (@within .release registry 1 9 1 .null (.none 0)).run s =
      ((.error (.stackOverflow 1), s) : Except EvalError Violations × EvalStack) := by
    with_unfolding_all rfl
  exact ⟨hs, (hnode 1 .null (.none 0) s hs build).2.trans hfound,
    (hnode' 1 .null (.none 0) s hs build).2.trans hfails⟩

end JsonSchema
