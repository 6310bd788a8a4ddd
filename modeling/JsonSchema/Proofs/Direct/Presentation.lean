import JsonSchema.Proofs.Direct.Refinement
import JsonSchema.Proofs.Direct.Restated

/-!
# The presentation of instances does not matter

The order of the members of an instance decides in which order its members are evaluated, and where
a trial stops; and the form of a number decides how it is compared. Without a limit on violations
none of this shows in an answer, except in the order of the violations, and in whether there is an
answer at all: a trial that stops early may leave out an evaluation that fails.

The same is true of the documents: where they are restated, the direct interpreter finds the same.
-/

namespace JsonSchema

open Value

namespace Direct

variable {documents documents' : List Value} {limit : Nat} {answers answers' : Answers}

/-! ## The direct interpreter only adds violations -/

/-- Every answer gathers. -/
def Answers.Gathers (answers : Answers) : Prop := ∀ spot v, JsonSchema.Gathers (answers spot v)

theorem site_gathers (h : answers.Gathers) (limit : Nat) (spot : Spot) :
    (site limit answers spot).Gathers where
  evaluate b := h _ b.value
  follow target schema v := by
    intro out out' hok
    simp only [site] at hok
    split at hok
    · exact nomatch hok
    · exact h _ v out out' hok

theorem schemaAnswer_gathers (h : answers.Gathers) (documents : List Value) (limit : Nat) :
    (schemaAnswer documents limit answers).Gathers := by
  intro spot v out out' hok
  unfold schemaAnswer at hok
  split at hok
  · cases hok
    exact .refl out
  · split at hok
    · cases hok
      exact .refl out
    · cases hok
      exact out.continues_add _
    · exact (site_gathers h limit spot).performAll _ out out' hok
    · exact nomatch hok

/-- What never succeeds gathers. -/
theorem gathers_error (e : Spot → EvalError) : Answers.Gathers fun spot _ _ => .error (e spot) := by
  intro spot v out out' hok
  exact nomatch hok

theorem within_gathers (documents : List Value) (limit steps : Nat) :
    (within documents limit steps).Gathers := by
  induction steps with
  | zero => exact schemaAnswer_gathers (gathers_error _) documents limit
  | succ steps ih => exact schemaAnswer_gathers ih documents limit

/-! ## Restated documents and values -/

/-- At every spot, restated values have concordant answers. -/
structure Answers.Concords (answers answers' : Answers) : Prop where
  gathers : answers.Gathers
  gathers' : answers'.Gathers
  concordant : ∀ spot {v w}, Restates v w → Concordant (answers spot v) (answers' spot w)

theorem Answers.Concords.site (h : answers.Concords answers') (limit : Nat) (spot : Spot) :
    Site.Concords RestatesBranch (site limit answers spot) (site limit answers' spot) where
  violation _ := rfl
  gathers := site_gathers h.gathers limit spot
  gathers' := site_gathers h.gathers' limit spot
  evaluate := by
    intro b c hbc
    have hspot : spot.branch b = spot.branch c := by
      unfold Spot.branch
      rw [hbc.schema, hbc.token]
    show Concordant (answers (spot.branch b) b.value) (answers' (spot.branch c) c.value)
    rw [hspot]
    exact h.concordant _ hbc.value

/-- References are followed to the same place. -/
theorem Answers.Concords.follow (h : answers.Concords answers') (limit : Nat) (spot : Spot)
    (target : Target) (schema : Option Target) {v w : Value} (hvw : Restates v w) :
    Concordant ((Direct.site limit answers spot).follow target schema v)
      ((Direct.site limit answers' spot).follow target schema w) := by
  show Concordant (fun out => if limit ≤ spot.depth then .error (.stackOverflow limit)
    else answers (spot.follow target) v out) (fun out => if limit ≤ spot.depth then
      .error (.stackOverflow limit) else answers' (spot.follow target) w out)
  by_cases hdepth : limit ≤ spot.depth
  · simp only [if_pos hdepth]
    exact .error _ _
  · simp only [if_neg hdepth]
    exact h.concordant _ hvw

/-- The tasks of a restated schema have concordant counterparts. -/
theorem tasks_counterparts (h : answers.Concords answers') (limit : Nat) (spot : Spot)
    {members members' : Members Value} (hm : RestatesMembers members members') {v w : Value}
    (hvw : Restates v w) :
    Shuffled (Site.Counterparts (site limit answers spot) (site limit answers' spot))
      (tasks spot.schema members v) (tasks spot.schema members' w) := by
  have hown : Shuffled RestatesTask (ownTasks spot.schema members v)
      (ownTasks spot.schema members' w) := ownTasks_restates hm hvw
  refine Shuffled.append ?_ (hown.imp fun _ _ ht => (h.site limit spot).perform ht)
  unfold refTasks
  rw [given_restates hm (asReference_restates spot.schema.base)]
  cases given members' "$ref" (Compile.asReference spot.schema.base) with
  | none => exact .nil
  | some ref => exact .singleton (h.follow limit spot ref.target (some ref.target) hvw)

theorem schemaAnswer_concords (hdocs : RestatesAll documents documents')
    (h : answers.Concords answers') :
    (schemaAnswer documents limit answers).Concords (schemaAnswer documents' limit answers') where
  gathers := schemaAnswer_gathers h.gathers documents limit
  gathers' := schemaAnswer_gathers h.gathers' documents' limit
  concordant := by
    intro spot v w hvw
    -- with room for a violation, the answer is that of the schema
    refine Concordant.congr (fun out hout => if_neg hout) (fun out hout => if_neg hout) ?_
    have hvalue := valueAt_restates hdocs spot.schema
    generalize valueAt documents spot.schema = o, valueAt documents' spot.schema = o' at hvalue
    cases hvalue with
    | none => exact .error _ _
    | @some schema schema' hs =>
        cases schema with
        | bool b =>
            cases hs.alike
            cases b with
            | true => exact .ok
            | false => exact .add _
        | object members =>
            obtain ⟨members', rfl, _⟩ := hs.members
            exact Site.concordant_performAll (site_gathers h.gathers limit spot)
              (site_gathers h.gathers' limit spot)
              (tasks_counterparts h limit spot (restatesMembers_of_object hs) hvw)
        | array items =>
            obtain ⟨items', rfl, _⟩ := hs.elements
            exact .error _ _
        | _ =>
            cases hs.alike
            exact .error _ _

/-- **Restated documents have concordant answers for restated values**, however deep either
evaluation may go. -/
theorem within_concords (hdocs : RestatesAll documents documents') (limit n n' : Nat) :
    (within documents limit n).Concords (within documents' limit n') := by
  induction n generalizing n' with
  | zero =>
      -- the evaluation on the left goes no deeper
      have hleft : ∀ answers' : Answers, answers'.Gathers →
          Answers.Concords (fun spot _ _ => .error (.unlinked spot.schema.key)) answers' :=
        fun answers' hg => ⟨gathers_error _, hg, fun _ _ _ _ => .error _ _⟩
      cases n' with
      | zero => exact schemaAnswer_concords hdocs (hleft _ (gathers_error _))
      | succ n' => exact schemaAnswer_concords hdocs (hleft _ (within_gathers documents' limit n'))
  | succ n ih =>
      cases n' with
      | zero =>
          refine schemaAnswer_concords hdocs
            ⟨within_gathers documents limit n, gathers_error _, fun _ _ _ _ => ?_⟩
          exact (Concordant.error _ _).symm
      | succ n' => exact schemaAnswer_concords hdocs (ih n')

/-- Without a limit on violations, both evaluations find the same ones. -/
theorem evaluate_perm (hdocs : RestatesAll documents documents') (limit : Nat) (place : Target)
    {v w : Value} (hvw : Restates v w) {es es' : Report}
    (h : evaluate documents limit 0 place v = .ok es)
    (h' : evaluate documents' limit 0 place w = .ok es') : es.Perm es' := by
  obtain ⟨out, hout, rfl⟩ := map_eq_ok h
  obtain ⟨out', hout', rfl⟩ := map_eq_ok h'
  obtain ⟨l, rfl⟩ := (within_gathers documents limit _ _ v).exists_extend hout
  obtain ⟨l', rfl⟩ := (within_gathers documents' limit _ _ w).exists_extend hout'
  exact ((within_concords hdocs limit _ _).concordant _ hvw).adds rfl rfl hout hout'

theorem validate_perm (hdocs : RestatesAll documents documents') {config : Config}
    (hcap : config.maxErrors = 0) {v w : Value} (hvw : Restates v w) {es es' : Report}
    (h : validate documents config v = .ok es) (h' : validate documents' config w = .ok es') :
    es.Perm es' := by
  unfold validate at h h'
  rw [hcap] at h h'
  -- the last documents have the same base
  have hlast := rel_getLast? hdocs
  generalize documents.getLast? = o at h hlast
  generalize documents'.getLast? = o' at h' hlast
  cases hlast with
  | none => exact nomatch h
  | @some d d' hd =>
      rw [Option.map_some] at h h'
      rw [← documentBase_of_same hd.same hd.distinct] at h'
      cases hbase : Compile.documentBase .anonymous d with
      | error e =>
          rw [hbase] at h
          exact nomatch h
      | ok base =>
          rw [hbase] at h h'
          exact evaluate_perm hdocs _ _ hvw h h'

theorem validateAt_perm (hdocs : RestatesAll documents documents') {config : Config}
    (hcap : config.maxErrors = 0) {v w : Value} (hvw : Restates v w) {selector : String}
    {es es' : Report} (h : validateAt documents config selector v = .ok es)
    (h' : validateAt documents' config selector w = .ok es') : es.Perm es' := by
  unfold validateAt at h h'
  rw [hcap] at h h'
  cases htarget : Target.ofSelector selector with
  | error e =>
      rw [htarget] at h
      exact nomatch h
  | ok target =>
      rw [htarget] at h h'
      exact evaluate_perm hdocs _ _ hvw h h'

end Direct

/-! ## Validators -/

/-- Equal up to order, and so the same verdict. -/
structure SameViolations (es es' : Report) : Prop where
  /-- The same violations, each as often. -/
  perm : es.Perm es'
  /-- The same verdict. -/
  verdict : es.isValid = es'.isValid

theorem sameViolations_of_perm {es es' : Report} (h : es.Perm es') : SameViolations es es' where
  perm := h
  verdict := by
    unfold Report.isValid
    rw [Bool.eq_iff_iff, List.isEmpty_iff_length_eq_zero, List.isEmpty_iff_length_eq_zero,
      h.length_eq]

open Direct in
/-- **Validators of restated documents find the same violations** in restated instances. -/
theorem sameViolations_of_restates {documents documents' : List Value}
    (hdocs : RestatesAll documents documents') {config : Config} (hcap : config.maxErrors = 0)
    {validator validator' : Validator} (h : Validator.ofDocuments documents config = .ok validator)
    (h' : Validator.ofDocuments documents' config = .ok validator') {v w : Value}
    (hvw : Restates v w) :
    (∀ es es', validator.validate v = .ok es → validator'.validate w = .ok es' →
      SameViolations es es') ∧
    ∀ selector es es', validator.validateAt selector v = .ok es →
      validator'.validateAt selector w = .ok es' → SameViolations es es' := by
  refine ⟨fun es es' hes hes' => ?_, fun selector es es' hes hes' => ?_⟩
  · rw [validate_eq_direct hdocs.distinct h] at hes
    rw [validate_eq_direct hdocs.symm.distinct h'] at hes'
    exact sameViolations_of_perm (validate_perm hdocs hcap hvw hes hes')
  · rw [validateAt_eq_direct hdocs.distinct h (by rw [hes]; nofun)] at hes
    rw [validateAt_eq_direct hdocs.symm.distinct h' (by rw [hes']; nofun)] at hes'
    exact sameViolations_of_perm (validateAt_perm hdocs hcap hvw hes hes')

open Direct in
/-- **How an instance is presented does not matter.** The members of its objects may be reordered at
any depth, and whole numbers below `2 ^ 53` in size may be written as integers or as binary64
numbers. If there is no limit on violations and both evaluations succeed, they find the same
violations, each as often, with every schema and within any limit on frames. -/
theorem instance_presentation_irrelevant (documents : List Value)
    (hd : ∀ document ∈ documents, document.Distinct) (config : Config)
    (hcap : config.maxErrors = 0) (validator : Validator)
    (h : Validator.ofDocuments documents config = .ok validator) (v w : Value) (hv : v.Distinct)
    (halike : v.Alike w) :
    (∀ es es', validator.validate v = .ok es → validator.validate w = .ok es' →
      SameViolations es es') ∧
    ∀ selector es es', validator.validateAt selector v = .ok es →
      validator.validateAt selector w = .ok es' → SameViolations es es' := by
  exact sameViolations_of_restates (.refl hd) hcap h h ⟨halike, hv⟩

/-- A schema for two members. -/
def bounding : Value :=
  .object [("properties", .object [("a", .object [("maximum", .number (.integer 18))]),
    ("b", .object [("type", .string "string")])])]

/-- An object whose members both violate it. -/
def presented : Value := .object [("a", .number (.integer 19)), ("b", .null)]

/-- The same object in another presentation. -/
def presentedAgain : Value :=
  .object [("b", .null), ("a", .number (.float (.ofNat false 19 (by decide))))]

theorem instance_presentation_irrelevant_reordered :
    (∀ document ∈ [bounding], document.Distinct) ∧ presented.Distinct ∧
    presented.Alike presentedAgain ∧
    ∃ validator es es', Validator.ofDocuments [bounding] {} = .ok validator ∧
      validator.validate presented = .ok es ∧ validator.validate presentedAgain = .ok es' ∧
      es ≠ es' ∧ SameViolations es es' := by
  have hd : ∀ document ∈ [bounding], document.Distinct := by
    simp [bounding, Value.Distinct, Value.DistinctMembers, Members.Distinct]
  have hv : presented.Distinct := by
    simp [presented, Value.Distinct, Value.DistinctMembers, Members.Distinct]
  have hnineteen : (Number.integer 19).Alike (.float (.ofNat false 19 (by decide))) :=
    .inr ⟨19, by decide, rfl, by decide +kernel⟩
  have halike : presented.Alike presentedAgain :=
    alike_object ⟨_, List.Perm.swap _ _ _, .cons ⟨rfl, .null⟩ (.cons ⟨rfl, .number hnineteen⟩ .nil)⟩
  have hreports : (Validator.ofDocuments [bounding] {}).toOption.map
      (fun validator => (validator.validate presented, validator.validate presentedAgain)) =
      some (.ok [⟨⟨["a"]⟩, ⟨["properties", "a", "maximum"]⟩, ""⟩,
          ⟨⟨["b"]⟩, ⟨["properties", "b", "type"]⟩, ""⟩],
        .ok [⟨⟨["b"]⟩, ⟨["properties", "b", "type"]⟩, ""⟩,
          ⟨⟨["a"]⟩, ⟨["properties", "a", "maximum"]⟩, ""⟩]) := by
    decide +kernel
  obtain ⟨validator, h, hboth⟩ := exists_of_toOption_map hreports
  obtain ⟨hes, hes'⟩ := Prod.mk.inj hboth
  refine ⟨hd, hv, halike, validator, _, _, h, hes, hes', by decide, ?_⟩
  exact (instance_presentation_irrelevant [bounding] hd {} rfl validator h presented
    presentedAgain hv halike).1 _ _ hes hes'

end JsonSchema
