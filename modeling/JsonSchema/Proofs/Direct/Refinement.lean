import JsonSchema.Proofs.Compilation.Linking
import JsonSchema.Proofs.Direct.Again
import JsonSchema.Proofs.Direct.Compiled
import JsonSchema.Proofs.Direct.Interpreter
import JsonSchema.Proofs.Evaluation.Overflow

/-!
# Validators answer what the direct interpreter answers

An evaluation of a node and an evaluation at a spot go side by side if the current frame is at the
place of the spot, and the node has the key of this place. Then the node represents the value that
the interpreter finds at the place, so both perform the same tasks, and whatever they go on with is
side by side again.

Each side has a bound on how deep it goes. Since what they go on with has a smaller rank on either
side, both bounds are large enough.
-/

namespace JsonSchema

open Compile Direct

variable {documents : List Value} {registry : Registry} {limit : Nat}

/-! ## Places of an evaluation and spots -/

/-- The evaluation is at the spot. -/
structure EvalStack.At (s : EvalStack) (spot : Spot) : Prop where
  /-- The ways to the value in the instance are the same. -/
  path : s.instancePath = spot.path
  /-- The current frame is at the place of the schema, and there are as many frames. -/
  frames : ∃ rest, s.frames = ⟨spot.schema.base.text, spot.schema.pointer.tokens⟩ :: rest ∧
    spot.depth = rest.length + 1

namespace EvalStack.At

variable {s : EvalStack} {spot : Spot}

theorem depth_eq (h : s.At spot) : s.depth = spot.depth := by
  obtain ⟨rest, hframes, hdepth⟩ := h.frames
  rw [EvalStack.depth, hframes, hdepth]
  rfl

theorem violation_eq (h : s.At spot) : s.violation = spot.violation [] := by
  obtain ⟨rest, hframes, _⟩ := h.frames
  unfold EvalStack.violation Spot.violation
  rw [hframes, h.path]
  simp only [Target.below, List.append_nil]

/-- Going down in the document. -/
theorem foldl_pushToken (h : s.At spot) (tokens : List String) :
    (tokens.foldl EvalStack.pushToken s).At { spot with schema := spot.schema.below tokens } := by
  induction tokens generalizing s spot with
  | nil =>
      obtain ⟨rest, hframes, hdepth⟩ := h.frames
      refine ⟨h.path, rest, ?_, hdepth⟩
      show s.frames = ⟨_, spot.schema.pointer.tokens ++ []⟩ :: rest
      rw [List.append_nil]
      exact hframes
  | cons token tokens ih =>
      obtain ⟨rest, hframes, hdepth⟩ := h.frames
      have hpush : (s.pushToken token).At { spot with schema := spot.schema.below [token] } := by
        unfold EvalStack.pushToken
        rw [hframes]
        exact ⟨h.path, rest, rfl, hdepth⟩
      have hrest := ih hpush
      rw [Target.below_below] at hrest
      exact hrest

theorem below (h : s.At spot) (tokens : List String) (token : Option String) :
    (s.below tokens token).At
      { spot with schema := spot.schema.below tokens, path := spot.path ++ token.toList } := by
  have htokens := h.foldl_pushToken tokens
  cases token with
  | none => exact ⟨htokens.path.trans (List.append_nil _).symm, htokens.frames⟩
  | some token => exact ⟨congrArg (· ++ [token]) htokens.path, htokens.frames⟩

theorem pushFrame (h : s.At spot) (target : Target) :
    (s.pushFrame ⟨target.base.text, target.pointer.tokens⟩).At (spot.follow target) := by
  refine ⟨h.path, s.frames, rfl, ?_⟩
  show spot.depth + 1 = s.depth + 1
  rw [h.depth_eq]

theorem branch (h : s.At spot) {index : Target → Nat → Prop} {b : Branch Target} {c : Branch Nat}
    (hb : CompiledBranch spot.schema index b c) :
    (s.below c.tokens c.token).At (spot.branch b) := by
  have hbelow := h.below c.tokens c.token
  rw [← hb.tokens, ← hb.token, ← hb.place] at hbelow
  rw [← hb.tokens, ← hb.token]
  exact hbelow

end EvalStack.At

/-! ## The rank of a spot -/

namespace Direct

theorem height_le_tallest {document : Value} (h : document ∈ documents) :
    document.height ≤ tallest documents := by
  unfold tallest
  induction documents with
  | nil => exact absurd h List.not_mem_nil
  | cons d rest ih =>
      rw [List.map_cons, List.foldr_cons]
      rcases List.mem_cons.mp h with rfl | h
      · exact Nat.le_max_left _ _
      · exact Nat.le_trans (ih h) (Nat.le_max_right _ _)

theorem height_le_of_valueAt {place : Target} {v : Value} (h : valueAt documents place = some v) :
    v.height ≤ tallest documents := by
  obtain ⟨document, hdocument, hwalk⟩ := Option.bind_eq_some_iff.mp h
  have hle := (Pointer.walk_inside hwalk).1
  have hdoc := height_le_tallest (mem_of_documentAt hdocument).1
  omega

/-- How much evaluation there can still be of a schema of this height. -/
def rank (documents : List Value) (limit depth height : Nat) : Nat :=
  (limit - depth) * (tallest documents + 1) + height

theorem rank_lower {depth height height' : Nat} (h : height' < height) :
    rank documents limit depth height' < rank documents limit depth height :=
  Nat.add_lt_add_left h _

theorem rank_follow {depth height height' : Nat} (hd : ¬ limit ≤ depth)
    (hh : height' ≤ tallest documents) :
    rank documents limit (depth + 1) height' < rank documents limit depth height := by
  unfold rank
  -- one frame less is worth more than the highest schema
  have hsub : limit - depth = (limit - (depth + 1)) + 1 := by omega
  rw [hsub, Nat.succ_mul]
  omega

theorem rank_le_steps {depth height : Nat} (hh : height ≤ tallest documents) :
    rank documents limit depth height ≤ steps documents limit := by
  unfold rank steps
  have hle := Nat.mul_le_mul_right (tallest documents + 1) (Nat.sub_le limit depth)
  rw [Nat.succ_mul]
  omega

end Direct

/-! ## Side by side -/

/-- The node at the place of a spot. -/
structure Beside (registry : Registry) (s : EvalStack) (spot : Spot) (i : Nat) : Prop where
  /-- The evaluation is at the spot. -/
  here : s.At spot
  /-- The node has the key of the place. -/
  index : registry.lookup spot.schema.key = some i

/-- Both answer alike whatever is side by side and has smaller ranks than these. -/
def AgreeBelow (documents : List Value) (registry : Registry) (limit : Nat)
    (answers : Eval.Answers) (answers' : Direct.Answers) (n n' : Nat) : Prop :=
  ∀ s spot j w u, Beside registry s spot j → valueAt documents spot.schema = some u →
    Eval.rank registry limit s j < n → Direct.rank documents limit spot.depth u.height < n' →
    ∀ out, answers s j w out = answers' spot w out

section

variable (hf : registry.Faithful (StandsAt documents)) {answers : Eval.Answers}
  {answers' : Direct.Answers} {s : EvalStack} {spot : Spot} {i : Nat} {members : Members Value}
include hf

/-- Sub-schemas are side by side. -/
theorem agrees_site (hs : s.At spot) (hv : valueAt documents spot.schema = some (.object members))
    (h : AgreeBelow documents registry limit answers answers' (Eval.rank registry limit s i)
      (Direct.rank documents limit spot.depth (Value.object members).height)) :
    Site.Agrees (CompiledBranch spot.schema (registry.IndexBelow i)) (site limit answers' spot)
      (Eval.site limit answers s) where
  violation := by
    intro tokens
    have hbelow := (hs.below tokens none).violation_eq
    show spot.violation tokens = (s.below tokens none).violation
    rw [hbelow]
    simp only [Spot.violation, Target.below, List.append_nil, Option.toList]
  evaluate := by
    intro b c hb out
    obtain ⟨hlt, hindex⟩ := hb.index
    obtain ⟨_, u, _, _, hu, _⟩ := represents_of_lookup hf hindex
    -- the value of the sub-schema is inside the value of the schema
    have hwalk : Pointer.walk b.tokens (.object members) = some u := by
      rw [← valueAt_below hv, ← hb.place]
      exact hu
    have hheight : u.height < (Value.object members).height := by
      have hle := (Pointer.walk_inside hwalk).1
      have hpos := List.length_pos_iff.mpr hb.down
      omega
    have hrank : Eval.rank registry limit (s.below c.tokens c.token) c.schema <
        Eval.rank registry limit s i := Eval.rank_below hlt
    show answers' (spot.branch b) b.value out =
      answers (s.below c.tokens c.token) c.schema c.value out
    rw [hb.value]
    exact (h _ _ _ _ u ⟨hs.branch hb, hindex⟩ hu hrank (rank_lower hheight) out).symm

/-- A reference is followed to the same place, which its link leads to. -/
theorem agrees_ref (hs : s.At spot) {ref ref' : Option Reference}
    (hl : Option.Rel registry.LinkedFrom ref ref')
    (hlinked : ∀ r ∈ ref', ∃ j, r.resolved = some j)
    (hgiven : given members "$ref" (asReference spot.schema.base) = ref) {k : Keywords}
    (hk : k.ref = ref') {height : Nat}
    (h : AgreeBelow documents registry limit answers answers' (Eval.rank registry limit s i)
      (Direct.rank documents limit spot.depth height)) (v : Value) (out : Violations) :
    (Eval.site limit answers s).performAll (k.refTasks v) out =
      (site limit answers' spot).performAll (refTasks spot.schema members v) out := by
  unfold Keywords.refTasks refTasks
  rw [hgiven, hk]
  cases hl with
  | none => rfl
  | @some r r' hr =>
      obtain ⟨j, hj⟩ := hlinked r' rfl
      -- the link leads to the node at the target
      have hlookup : registry.lookup r.target.key = some j := by
        rw [← hr.target]
        exact hr.resolved j hj
      obtain ⟨_, u, _, _, hu, _⟩ := represents_of_lookup hf hlookup
      dsimp only
      rw [Site.performAll_singleton, Site.performAll_singleton, hj, hr.target]
      show (if limit ≤ s.depth then _ else answers _ j v out) =
        if limit ≤ spot.depth then _ else answers' (spot.follow r.target) v out
      rw [hs.depth_eq]
      -- both have run out of frames, or both have one left
      by_cases hd : limit ≤ spot.depth
      · rw [if_pos hd, if_pos hd]
      · rw [if_neg hd, if_neg hd]
        have hrank : Eval.rank registry limit
            (s.pushFrame ⟨r.target.base.text, r.target.pointer.tokens⟩) j <
            Eval.rank registry limit s i :=
          Eval.rank_pushFrame (hs.depth_eq ▸ hd) (hf.coherent.lt_size hlookup)
        have hrank' : Direct.rank documents limit (spot.follow r.target).depth u.height <
            Direct.rank documents limit spot.depth height :=
          rank_follow hd (height_le_of_valueAt hu)
        exact h _ _ j v u ⟨hs.pushFrame r.target, hlookup⟩ hu hrank hrank' out

/-- A node answers what the interpreter answers at its place. -/
theorem nodeAnswer_eq (hl : registry.Linked) {u : Value} (hb : Beside registry s spot i)
    (hu : valueAt documents spot.schema = some u)
    (h : AgreeBelow documents registry limit answers answers' (Eval.rank registry limit s i)
      (Direct.rank documents limit spot.depth u.height)) (v : Value) (out : Violations) :
    Eval.nodeAnswer registry limit answers s i v out =
      schemaAnswer documents limit answers' spot v out := by
  obtain ⟨node, u', hnode, _, hu', hrep⟩ := represents_of_lookup hf hb.index
  rw [hu] at hu'
  cases hu'
  have hlinked : ∀ r ∈ node.ref?, ∃ j, r.resolved = some j := fun r hr => hl hnode hr
  obtain ⟨uri, body⟩ := node
  unfold Eval.nodeAnswer schemaAnswer
  rw [hnode, hu]
  by_cases hfull : out.isFull = true
  · rw [if_pos hfull, if_pos hfull]
  · rw [if_neg hfull, if_neg hfull]
    cases hrep with
    | bool b =>
        cases b with
        | true => rfl
        | false => exact congrArg (fun w => Except.ok (out.add w)) hb.here.violation_eq
    | @keywords members k ref hyields href =>
        obtain ⟨hgiven, htasks⟩ := compiled_keywords hyields
        show (Eval.site limit answers s).performAll (k.refTasks v ++ k.ownTasks v) out =
          (site limit answers' spot).performAll
            (refTasks spot.schema members v ++ ownTasks spot.schema members v) out
        -- the reference first, and then the other keywords
        rw [Site.performAll_append, Site.performAll_append,
          agrees_ref hf hb.here href hlinked hgiven rfl h]
        exact congrArg _ (funext fun out =>
          ((agrees_site hf hb.here hu h).performAll (htasks v) out).symm)

/-- **However deep both go, if it is deep enough they answer the same.** -/
theorem within_eq (hl : registry.Linked) {u : Value} {n n' : Nat} (hb : Beside registry s spot i)
    (hu : valueAt documents spot.schema = some u) (hn : Eval.rank registry limit s i ≤ n)
    (hn' : Direct.rank documents limit spot.depth u.height ≤ n') (v : Value) (out : Violations) :
    Eval.answerWithin registry limit n s i v out =
      within documents limit n' spot v out := by
  induction n generalizing n' s spot i u v out with
  | zero =>
      cases n' <;> exact nodeAnswer_eq hf hl hb hu (fun _ _ _ _ _ _ _ hlt => by omega) v out
  | succ n ih =>
      -- where a bound is used up, nothing has a smaller rank
      cases n' with
      | zero => exact nodeAnswer_eq hf hl hb hu (fun _ _ _ _ _ _ _ _ hlt => by omega) v out
      | succ n' =>
          refine nodeAnswer_eq hf hl hb hu (fun s' spot' j w u' hb' hu' hlt hlt' out => ?_) v out
          exact ih hb' hu' (by omega) (by omega) w out

/-- Evaluation from the node at a place. -/
theorem evaluate_eq_direct (hl : registry.Linked) {place : Target}
    (hi : registry.lookup place.key = some i) (cap : Nat) (v : Value) :
    registry.evaluate limit cap ⟨place.base.text, place.pointer.tokens⟩ i v =
      Direct.evaluate documents limit cap place v := by
  obtain ⟨_, u, _, _, hu, _⟩ := represents_of_lookup hf hi
  have hat : (EvalStack.empty.pushFrame ⟨place.base.text, place.pointer.tokens⟩).At
      { schema := place, path := [], depth := 1 } := ⟨rfl, [], rfl, rfl⟩
  rw [Registry.evaluate_eq]
  exact congrArg (Except.map Violations.found) (within_eq hf hl ⟨hat, hi⟩ hu
    (Eval.rank_le_steps (hf.coherent.lt_size hi)) (rank_le_steps (height_le_of_valueAt hu))
    v (.none cap))

end

/-! ## Accepted documents -/

section

variable {documents : List Value} {config : Config} {validator : Validator}
  (hd : ∀ document ∈ documents, document.Distinct)
  (h : Validator.ofDocuments documents config = .ok validator)
include hd h

theorem validate_eq_direct (v : Value) :
    validator.validate v = Direct.validate documents config v := by
  obtain ⟨bundle, hbundle, hvalidator⟩ := bind_eq_ok h
  cases hvalidator
  obtain ⟨hf, hl, hroots⟩ := Bundle.linked_of_ofDocuments (supports_valueAt hd) hbundle
  unfold Validator.validate Direct.validate
  dsimp only
  -- the last root is the root of the last document
  have hlast := rel_getLast? hroots
  generalize bundle.roots.getLast? = root at hlast
  generalize documents.getLast? = document at hlast
  cases hlast with
  | none => rfl
  | @some document root hroot =>
      obtain ⟨hbase, hfound⟩ := hroot
      have hkey : bundle.registry.lookup (Target.key { base := root.base, pointer := .root }) =
          some root.index := hfound
      rw [Option.map_some, hbase]
      exact evaluate_eq_direct hf hl hkey _ v

/-- Where a selector names a schema that is compiled. -/
theorem validateAt_eq_direct {selector : String} {v : Value}
    (hne : validator.validateAt selector v ≠ .error (.unknownSchema selector)) :
    validator.validateAt selector v = Direct.validateAt documents config selector v := by
  obtain ⟨bundle, hbundle, hvalidator⟩ := bind_eq_ok h
  cases hvalidator
  obtain ⟨hf, hl, _⟩ := Bundle.linked_of_ofDocuments (supports_valueAt hd) hbundle
  unfold Validator.validateAt at hne ⊢
  unfold Direct.validateAt
  cases ht : Target.ofSelector selector with
  | error cause => rfl
  | ok target =>
      rw [ht] at hne
      dsimp only at hne ⊢
      cases hi : bundle.registry.lookup target.key with
      | none => rw [hi] at hne; exact absurd rfl hne
      | some i => exact evaluate_eq_direct hf hl hi _ v

end

/-- **A validator answers what the direct interpreter of its documents answers.** No name occurs
twice in an object, which is all that is asked of the documents besides being accepted. The answers
are equal as a whole: the violations, their order and their places, or the error. -/
theorem validator_refines_interpreter (documents : List Value)
    (hd : ∀ document ∈ documents, document.Distinct) (config : Config) (validator : Validator)
    (h : Validator.ofDocuments documents config = .ok validator) :
    (∀ v, validator.validate v = Direct.validate documents config v) ∧
    ∀ selector v, validator.validateAt selector v ≠ .error (.unknownSchema selector) →
      validator.validateAt selector v = Direct.validateAt documents config selector v :=
  ⟨validate_eq_direct hd h, fun _ _ hne => validateAt_eq_direct hd h hne⟩

/-- A document with a schema below `default`, which is not compiled with the document. -/
def referredTo : Value :=
  .object [("$id", .string "http://host/a"), ("default", .object [("type", .string "string")])]

/-- A document that refers to it. -/
def referring : Value :=
  .object [("properties", .object [("x", .object [("$ref", .string "http://host/a#/default")])])]

theorem validator_refines_interpreter_referring :
    (∀ document ∈ [referredTo, referring], document.Distinct) ∧
    ∃ validator, Validator.ofDocuments [referredTo, referring] {} = .ok validator ∧
      validator.validate (.object [("x", .null)]) =
        .ok [⟨⟨["x"]⟩, ⟨["default", "type"]⟩, "http://host/a"⟩] ∧
      validator.validateAt "http://host/a#/default" .null =
        .ok [⟨⟨[]⟩, ⟨["default", "type"]⟩, "http://host/a"⟩] := by
  have hd : ∀ document ∈ [referredTo, referring], document.Distinct := by
    simp [referredTo, referring, Members.Distinct, Value.Distinct, Value.DistinctMembers]
  have haccepted : (Validator.ofDocuments [referredTo, referring] {}).toOption.map
      (fun validator => validator.validateAt "http://host/a#/default" .null) =
      some (.ok [⟨⟨[]⟩, ⟨["default", "type"]⟩, "http://host/a"⟩]) := by
    decide +kernel
  cases hv : Validator.ofDocuments [referredTo, referring] {} with
  | error e => rw [hv] at haccepted; simp [Except.toOption] at haccepted
  | ok validator =>
      rw [hv] at haccepted
      have hanswer : validator.validateAt "http://host/a#/default" .null =
          .ok [⟨⟨[]⟩, ⟨["default", "type"]⟩, "http://host/a"⟩] := Option.some.inj haccepted
      have hselector : validator.validateAt "http://host/a#/default" .null ≠
          .error (.unknownSchema "http://host/a#/default") := by
        rw [hanswer]
        simp
      obtain ⟨hvalidate, hvalidateAt⟩ := validator_refines_interpreter _ hd {} validator hv
      refine ⟨hd, validator, rfl, ?_, ?_⟩
      · rw [hvalidate]
        decide +kernel
      · rw [hvalidateAt _ _ hselector]
        decide +kernel

end JsonSchema
