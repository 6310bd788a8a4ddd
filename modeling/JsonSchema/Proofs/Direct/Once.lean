import JsonSchema.Proofs.Direct.Contents
import JsonSchema.Proofs.Evaluation.Blame
import JsonSchema.Proofs.Evaluation.Concordant
import JsonSchema.Proofs.Evaluation.Ways
import JsonSchema.Proofs.Evaluation.Whereabouts

/-!
# No violation is reported twice

As long as no reference is followed, what an evaluation adds lies below the places where it is run:
deeper in the instance, or deeper in the document, or right there. The tasks of a node report below
ways that are apart from each other, so whatever one of them adds, no other one adds it again. And
none of them adds anything twice: a keyword is reported once, and a sub-schema is evaluated in turn.

A reference goes to another frame, where nothing of this holds any more: two references may lead to
the same schema. Trials make no difference. What is found in a trial is never reported, so
references may be followed there.
-/

namespace JsonSchema

open Compile

variable {ι : Type}

/-! ## What is below -/

/-- The way that leads nowhere else. -/
def Way.stay : Way := ⟨[], none⟩

theorem Violation.Below.stay {e here : Violation} {w : Way} (h : e.Below here w) :
    e.Below here .stay where
  inInstance := ((List.prefix_append_right_inj _).mpr List.nil_prefix).trans h.inInstance
  inDocument := ((List.prefix_append_right_inj _).mpr List.nil_prefix).trans h.inDocument

theorem Violation.below_stay (here : Violation) : here.Below here .stay where
  inInstance := ⟨[], by simp only [Way.stay, Option.toList_none, List.append_nil]⟩
  inDocument := ⟨[], by simp only [Way.stay, List.append_nil]⟩

/-- Going down, the violation at hand moves along the way. -/
theorem EvalStack.violation_below {s : EvalStack} (h : s.frames ≠ []) (tokens : List String)
    (token : Option String) :
    (s.below tokens token).frames ≠ [] ∧ (s.below tokens token).violation =
      ⟨⟨s.violation.instancePath.tokens ++ token.toList⟩,
        ⟨s.violation.schemaPath.tokens ++ tokens⟩, s.violation.schemaUri⟩ := by
  have htokens : (tokens.foldl pushToken s).frames ≠ [] ∧
      (tokens.foldl pushToken s).violation =
        { s.violation with schemaPath := ⟨s.violation.schemaPath.tokens ++ tokens⟩ } := by
    induction tokens generalizing s with
    | nil => exact ⟨h, by rw [List.append_nil]; rfl⟩
    | cons t rest ih =>
        obtain ⟨hframes, hpush⟩ := Eval.frames_pushToken h t
        obtain ⟨hframes', hrest⟩ := ih hframes
        refine ⟨hframes', hrest.trans ?_⟩
        rw [hpush]
        simp only [List.append_assoc, List.singleton_append]
  cases token with
  | none =>
      refine ⟨htokens.1, htokens.2.trans ?_⟩
      simp only [Option.toList_none, List.append_nil]
  | some t =>
      refine ⟨htokens.1, (Eval.violation_pushInstance _ t).trans ?_⟩
      rw [htokens.2]
      rfl

/-- What is below the places of a branch is below its way. -/
theorem Violation.Below.of_below {s : EvalStack} (h : s.frames ≠ []) {e : Violation} {w : Way}
    (he : e.Below (s.below w.tokens w.token).violation .stay) : e.Below s.violation w := by
  obtain ⟨hinstance, hdocument⟩ := he
  rw [(EvalStack.violation_below h w.tokens w.token).2] at hinstance hdocument
  simp only [Way.stay, Option.toList_none, List.append_nil] at hinstance hdocument
  exact ⟨hinstance, hdocument⟩

/-! ## Adding without repetition -/

/-- What has been added has no repetitions, and lies below some ways. -/
def AddsOnce (here : Violation) (ways : List Way) (out out' : Violations) : Prop :=
  ∃ l, out' = out.extend l ∧ l.Nodup ∧ ∀ e ∈ l, ∃ w ∈ ways, e.Below here w

namespace AddsOnce

variable {here : Violation} {ways ways' : List Way} {out mid out' : Violations}

theorem refl (here : Violation) (ways : List Way) (out : Violations) :
    AddsOnce here ways out out :=
  ⟨[], out.extend_nil.symm, .nil, fun _ h => absurd h List.not_mem_nil⟩

theorem mono (h : AddsOnce here ways out out') (hsub : ∀ w ∈ ways, w ∈ ways') :
    AddsOnce here ways' out out' := by
  obtain ⟨l, hout, hnodup, hbelow⟩ := h
  refine ⟨l, hout, hnodup, fun e he => ?_⟩
  obtain ⟨w, hw, hew⟩ := hbelow e he
  exact ⟨w, hsub w hw, hew⟩

/-- One violation, if there is room for it. -/
theorem add {e : Violation} {w : Way} (he : e.Below here w) (out : Violations) :
    AddsOnce here [w] out (out.add e) := by
  unfold Violations.add
  split
  · exact refl here [w] out
  · exact ⟨[e], rfl, List.nodup_singleton e,
      List.forall_mem_singleton.mpr ⟨w, List.mem_singleton_self w, he⟩⟩

/-- What is added below other ways is other. -/
theorem trans (h : AddsOnce here ways out mid) (h' : AddsOnce here ways' mid out')
    (hapart : ∀ w ∈ ways, ∀ w' ∈ ways', w.Apart w') :
    AddsOnce here (ways ++ ways') out out' := by
  obtain ⟨l, rfl, hnodup, hbelow⟩ := h
  obtain ⟨l', rfl, hnodup', hbelow'⟩ := h'
  refine ⟨l ++ l', out.extend_append l l', hnodup.append hnodup' fun e he he' => ?_,
    List.forall_mem_append.mpr ⟨fun e he => ?_, fun e he => ?_⟩⟩
  · obtain ⟨w, hw, hew⟩ := hbelow e he
    obtain ⟨w', hw', hew'⟩ := hbelow' e he'
    exact hapart w hw w' hw' here e hew hew'
  · obtain ⟨w, hw, hew⟩ := hbelow e he
    exact ⟨w, List.mem_append_left _ hw, hew⟩
  · obtain ⟨w, hw, hew⟩ := hbelow' e he
    exact ⟨w, List.mem_append_right _ hw, hew⟩

theorem stay (h : AddsOnce here ways out out') : AddsOnce here [.stay] out out' := by
  obtain ⟨l, hout, hnodup, hbelow⟩ := h
  refine ⟨l, hout, hnodup, fun e he => ?_⟩
  obtain ⟨w, _, hew⟩ := hbelow e he
  exact ⟨.stay, List.mem_singleton_self _, hew.stay⟩

end AddsOnce

namespace Site

variable {site : Site ι} {here : Violation} {out out' : Violations}

theorem reportIf_once {tokens : List String} (h : (site.violation tokens).Below here ⟨tokens, none⟩)
    (violated : Bool) (out : Violations) :
    AddsOnce here [⟨tokens, none⟩] out (site.reportIf violated tokens out) := by
  cases violated with
  | true => exact .add h out
  | false => exact .refl here _ out

/-- **A task adds once what it adds**, if the branches that it starts for real do. -/
theorem perform_once (hv : ∀ tokens, (site.violation tokens).Below here ⟨tokens, none⟩)
    {task : Task ι} (hown : ∀ target schema v, task ≠ .follow target schema v)
    (h : ∀ b out', site.Starts task b false → site.evaluate b out = .ok out' →
      AddsOnce here [b.way] out out')
    (hok : site.perform task out = .ok out') : AddsOnce here task.ways out out' := by
  cases task with
  | check violated tokens => cases hok; exact reportIf_once (hv tokens) violated out
  | descend b => exact h b out' (.descend b) hok
  | follow target schema v => exact absurd rfl (hown target schema v)
  | choose condition onPass onFail =>
      obtain ⟨passed, hpassed, hok⟩ := bind_eq_ok hok
      -- one branch is evaluated at most
      cases passed with
      | true =>
          cases onPass with
          | none => cases hok; exact .refl here _ out
          | some b =>
              refine (h b out' (.onPass hpassed) hok).mono (List.forall_mem_singleton.mpr ?_)
              exact List.mem_map_of_mem (List.mem_append_left _ (List.mem_singleton_self b))
      | false =>
          cases onFail with
          | none => cases hok; exact .refl here _ out
          | some b =>
              refine (h b out' (.onFail hpassed) hok).mono (List.forall_mem_singleton.mpr ?_)
              exact List.mem_map_of_mem (List.mem_append_right _ (List.mem_singleton_self b))
  | refute b tokens =>
      obtain ⟨passed, _, hok⟩ := bind_eq_ok hok
      cases hok; exact reportIf_once (hv tokens) passed out
  | some bs tokens =>
      obtain ⟨passed, _, hok⟩ := bind_eq_ok hok
      cases hok; exact reportIf_once (hv tokens) (!passed) out
  | one bs tokens =>
      obtain ⟨passed, _, hok⟩ := bind_eq_ok hok
      cases hok; exact reportIf_once (hv tokens) (!passed) out

/-- **Tasks that are apart add once what they add**, if each of them does. -/
theorem performAll_once {tasks : List (Task ι)} (hapart : tasks.Pairwise Task.Apart)
    (h : ∀ task mid out', site.ComesTo tasks out task mid → site.perform task mid = .ok out' →
      AddsOnce here task.ways mid out')
    (hok : site.performAll tasks out = .ok out') :
    AddsOnce here (tasks.flatMap Task.ways) out out' := by
  induction tasks generalizing out with
  | nil => cases hok; exact .refl here _ _
  | cons task rest ih =>
      rw [performAll_cons] at hok
      obtain ⟨mid, hmid, hok⟩ := bind_eq_ok hok
      obtain ⟨hfirst, hrest⟩ := List.pairwise_cons.mp hapart
      have hadds := h task out mid .here hmid
      have hadds' := ih hrest
        (fun t mid' out' hcomes hperform => h t mid' out' (.later hmid hcomes) hperform) hok
      rw [List.flatMap_cons]
      refine hadds.trans hadds' fun w hw w' hw' => ?_
      obtain ⟨t, ht, hw'⟩ := List.mem_flatMap.mp hw'
      exact hfirst t ht w hw w' hw'

end Site

/-! ## Evaluations -/

theorem Value.Puts.distinct {v w : Value} {token : Option String} (h : v.Puts token w)
    (hd : v.Distinct) : w.Distinct := by
  cases h with
  | same => exact hd
  | part hstep => exact (Pointer.step_inside hstep).2 hd
  | name _ => trivial

namespace Eval

/-- A reference is followed at the moment. -/
def Moment.Follows (registry : Registry) (limit : Nat) (m : Moment) : Prop :=
  ∃ k ref j, m.Opens registry k ∧ k.ref = some ref ∧ ref.resolved = some j ∧
    ¬ limit ≤ m.call.places.depth

/-- From the moment on no reference is followed, unless it is in a trial: then there are more lists
that wait. -/
def Moment.Stays (registry : Registry) (limit : Nat) (m : Moment) : Prop :=
  ∀ m', ComesTo registry limit m m' → m'.waiting = m.waiting → ¬ m'.Follows registry limit

variable {registry : Registry} {limit : Nat}

/-- Where no reference is followed there is none, or the evaluation fails. -/
theorem ref_of_stays {m : Moment} {k : Keywords} {answers : Answers} {out : Violations}
    (hopens : m.Opens registry k) (hstays : ¬ m.Follows registry limit)
    (hok : (site limit answers m.call.places).performAll (k.tasks m.call.value) m.out = .ok out) :
    k.ref = none := by
  cases href : k.ref with
  | none => rfl
  | some ref =>
      unfold Keywords.tasks Keywords.refTasks at hok
      rw [href] at hok
      obtain ⟨mid, hmid, _⟩ := bind_eq_ok hok
      change (site limit answers m.call.places).follow ref.target ref.resolved m.call.value m.out =
        .ok mid at hmid
      cases hj : ref.resolved with
      | none => rw [hj] at hmid; exact nomatch hmid
      | some j =>
          -- otherwise the reference would be followed
          have hfull : limit ≤ m.call.places.depth :=
            Decidable.byContradiction fun hd => hstays ⟨k, ref, j, hopens, href, hj, hd⟩
          have hfails : (site limit answers m.call.places).follow ref.target (some j) m.call.value
              m.out = .error (.stackOverflow limit) := if_pos hfull
          rw [hj, hfails] at hmid
          exact nomatch hmid

theorem Moment.Stays.run {m m' : Moment} (h : m.Stays registry limit)
    (hrun : Run registry limit m m') (hwaiting : m'.waiting = m.waiting) :
    m'.Stays registry limit :=
  fun m'' hcomes hlists => h m'' (.head hrun hcomes) (hlists.trans hwaiting)

/-- A moment at which no keywords are evaluated adds one violation at most, at its own place. -/
theorem answer_once_of_bool {m : Moment} {answers : Answers}
    (hopens : ¬ ∃ k, m.Opens registry k) {out : Violations}
    (hok : m.answer (nodeAnswer registry limit answers) = .ok out) :
    AddsOnce m.call.places.violation [.stay] m.out out := by
  unfold Moment.answer nodeAnswer at hok
  split at hok
  · cases hok; exact .refl _ _ _
  · rename_i hfull
    split at hok
    · exact nomatch hok
    · rename_i node hn
      split at hok
      · cases hok; exact .refl _ _ _
      · cases hok; exact .add (Violation.below_stay _) _
      · rename_i k hb
        exact absurd ⟨k, hfull, node, hn, hb⟩ hopens

/-- **An evaluation adds once what it adds, below its places**, as long as no reference is
followed. -/
theorem answer_once (hs : registry.Sound)
    (hseparate : ∀ i node k, registry.get? i = some node → node.body = .keywords k → k.Separate)
    (m : Moment) (hframes : m.call.places.frames ≠ []) (hv : m.call.value.Distinct)
    (hstays : m.Stays registry limit) (out : Violations)
    (hok : m.answer (answer registry limit) = .ok out) :
    AddsOnce m.call.places.violation [.stay] m.out out := by
  -- Induction on the calls. Sub-schemas that are evaluated for real are moments of their own, with
  -- the same lists waiting.
  have hwf := InvImage.wf Moment.call (wellFounded_lower limit)
  induction m using hwf.induction generalizing out with
  | _ m ih =>
      rw [answer_eq hs] at hok
      by_cases hopens : ∃ k, m.Opens registry k
      · obtain ⟨k, hopens⟩ := hopens
        rw [hopens.answer] at hok
        have href := ref_of_stays hopens (hstays m .refl rfl) hok
        have htasks : k.tasks m.call.value = k.ownTasks m.call.value := by
          unfold Keywords.tasks Keywords.refTasks
          rw [href]
          rfl
        have hviolation : ∀ tokens, (m.call.places.below tokens none).violation.Below
            m.call.places.violation ⟨tokens, none⟩ :=
          fun tokens => .of_below hframes (Violation.below_stay _)
        obtain ⟨node, hnode, hbody⟩ := hopens.node
        have hapart : (k.tasks m.call.value).Pairwise Task.Apart := by
          rw [htasks]
          exact Keywords.pairwise_ownTasks (hseparate _ node k hnode hbody) hv
        refine (Site.performAll_once hapart (fun task mid out' hcomes hperform => ?_) hok).stay
        have htask := htasks ▸ hcomes.mem
        refine Site.perform_once hviolation (Keywords.own_ownTasks k _ task htask).follows
          (fun b out' hstarts hb => ?_) hperform
        -- a branch that is evaluated for real
        have hrun : Run registry limit m (m.started b mid false) := .branch hopens hcomes hstarts
        have hsuits : task.Suits registry k m.call.value :=
          Keywords.suits_ownTasks hv task htask
        have hputs := hsuits.puts b hstarts.mem
        obtain ⟨l, hl, hnodup, hbelow⟩ := ih _ (hrun.nests.lower hs)
          (EvalStack.violation_below hframes b.tokens b.token).1 (hputs.distinct hv)
          (hstays.run hrun rfl) out' hb
        refine ⟨l, hl, hnodup, fun e he => ⟨b.way, List.mem_singleton_self _, ?_⟩⟩
        obtain ⟨w, hw, hew⟩ := hbelow e he
        exact .of_below hframes (List.mem_singleton.mp hw ▸ hew)
      · exact answer_once_of_bool hopens hok

/-- So a run reports nothing twice. -/
theorem evaluate_nodup (hs : registry.Sound)
    (hseparate : ∀ i node k, registry.get? i = some node → node.body = .keywords k → k.Separate)
    {cap i : Nat} {frame : Frame} {v : Value} (hv : v.Distinct)
    (hstays : (Moment.start frame i v cap).Stays registry limit) {es : List Violation}
    (hok : registry.evaluate limit cap frame i v = .ok es) : es.Nodup := by
  rw [evaluate_eq_answer] at hok
  obtain ⟨out, hanswer, rfl⟩ := map_eq_ok hok
  have hframes : (Moment.start frame i v cap).call.places.frames ≠ [] := List.cons_ne_nil _ _
  obtain ⟨l, rfl, hnodup, _⟩ := answer_once hs hseparate _ hframes hv hstays out hanswer
  exact hnodup

end Eval

/-! ## Accepted documents -/

namespace Direct

/-- Entries of an object are as far apart as its names. -/
theorem nodup_of_entries {α : Type} {entry : String → Value → α → Prop} {name : α → String}
    {members : Members Value} (hd : (Value.object members).Distinct) {keyword : String}
    {facet : Option (List α)} (h : Facet members keyword (Entries entry) facet)
    (hname : ∀ text v a, entry text v a → name a = text) : ((facet.getD []).map name).Nodup := by
  unfold Facet at h
  cases hget : members.get? keyword with
  | none =>
      rw [hget] at h
      cases h
      exact .nil
  | some w =>
      rw [hget] at h
      cases h with
      | @some _ entries hentries =>
          obtain ⟨own, rfl, hown⟩ := hentries
          have hnames := (Value.distinct_object.mp
            ((Value.distinct_object.mp hd).2 _ (Members.mem_of_get? hget))).1
          have hsame : own.map Prod.fst = entries.map name := by
            rw [← List.forall₂_eq_eq_eq, List.forall₂_map_left_iff, List.forall₂_map_right_iff]
            exact hown.imp fun p a hentry => (hname p.1 p.2 a hentry).symm
          exact hsame ▸ hnames

/-- Patterns and owners of dependencies come from the keys of objects. -/
theorem separate_of_carries {index : Target → Nat → Prop} {here : Target} {v : Value}
    {k : Keywords} (h : Carries index here v (.keywords k)) (hd : v.Distinct) : k.Separate := by
  cases h with
  | keywords hk =>
      refine ⟨nodup_of_entries hd hk.objects.patternProperties fun text _ a hentry => ?_,
        nodup_of_entries hd hk.objects.dependencies fun text _ a hentry => ?_⟩
      · obtain ⟨expr, _, heq⟩ := Option.map_eq_some_iff.mp hentry.1
        rw [← heq]
      · cases hentry <;> rfl

theorem separate_of_ofDocuments {documents : List Value}
    (hd : ∀ document ∈ documents, document.Distinct) {bundle : Bundle}
    (h : Bundle.ofDocuments documents = .ok bundle) (i : Nat) (node : Node) (k : Keywords)
    (hn : bundle.registry.get? i = some node) (hk : node.body = .keywords k) : k.Separate := by
  obtain ⟨here, v, hv, hcarries⟩ := carries_of_ofDocuments (supports_valueAt hd) h hn
  rw [hk] at hcarries
  exact separate_of_carries hcarries (distinct_of_valueAt hd hv)

end Direct

/-- In the validation of an instance with the schema at an index no reference is followed, unless it
is in a trial. -/
def Validator.Stays (validator : Validator) (here : Target) (index : Nat) (v : Value) : Prop :=
  (Eval.Moment.start ⟨here.base.text, here.pointer.tokens⟩ index v
    validator.config.maxErrors).Stays validator.bundle.registry validator.config.maxStackDepth

/-- **No violation is reported twice**, whatever the limits are and wherever a run starts, as long
as no reference is followed. This is the case for any start in the registry, for the last document,
and for every schema that a selector names. References that are followed in trials only do no
harm. -/
theorem violations_nodup (documents : List Value)
    (hd : ∀ document ∈ documents, document.Distinct) (config : Config) (validator : Validator)
    (h : Validator.ofDocuments documents config = .ok validator) (v : Value) (hv : v.Distinct) :
    (∀ here index es, validator.Stays here index v → validator.runAt here index v = .ok es →
      es.Nodup) ∧
    (∀ es, (∀ root ∈ validator.bundle.roots.getLast?,
        validator.Stays { base := root.base, pointer := .root } root.index v) →
      validator.validate v = .ok es → es.Nodup) ∧
    ∀ selector es, (∀ here index, Target.ofSelector selector = .ok here →
        validator.bundle.registry.lookup here.key = some index → validator.Stays here index v) →
      validator.validateAt selector v = .ok es → es.Nodup := by
  obtain ⟨hs, _, _⟩ := sound_of_ofDocuments h
  obtain ⟨bundle, hbundle, hvalidator⟩ := bind_eq_ok h
  cases hvalidator
  have hseparate := Direct.separate_of_ofDocuments hd hbundle
  have hrun : ∀ here index es, Validator.Stays ⟨bundle, config⟩ here index v →
      Validator.runAt ⟨bundle, config⟩ here index v = .ok es → es.Nodup :=
    fun here index es hstays hok => Eval.evaluate_nodup hs hseparate hv hstays hok
  refine ⟨hrun, fun es hstays hok => ?_, fun selector es hstays hok => ?_⟩
  · unfold Validator.validate at hok
    split at hok
    · exact nomatch hok
    · rename_i root hroot
      exact hrun _ _ es (hstays root hroot) hok
  · unfold Validator.validateAt at hok
    split at hok
    · exact nomatch hok
    · rename_i here hhere
      split at hok
      · exact nomatch hok
      · rename_i index hindex
        exact hrun _ _ es (hstays here index hhere hindex) hok

/-- Without references none is followed. -/
theorem Validator.stays_of_no_ref {validator : Validator}
    (h : ∀ node ∈ validator.bundle.registry.nodes.toList, node.ref? = none) (here : Target)
    (index : Nat) (v : Value) : validator.Stays here index v := by
  rintro m _ _ ⟨k, ref, j, hopens, href, _, _⟩
  obtain ⟨_, node, hnode, hbody⟩ := hopens
  have hnone := h node (Array.mem_toList_iff.mpr (Array.mem_of_getElem? hnode))
  rw [Node.ref?_of_keywords hbody href] at hnone
  exact nomatch hnone

/-- A schema in which a name is required twice, and one that is a keyword has several sub-schemas.
In `allOf` the same is required as outside. -/
def crowded : Value :=
  .object [
    ("required", .array [.string "x", .string "x"]),
    ("properties", .object [("required", .bool false)]),
    ("patternProperties", .object [("required", .bool false), ("^r", .bool false)]),
    ("propertyNames", .bool false),
    ("allOf", .array [.bool false, .object [("required", .array [.string "x"])]])]

/-- An object with that name. -/
def crowd : Value := .object [("required", .array [])]

theorem violations_nodup_crowded :
    (∀ document ∈ [crowded], document.Distinct) ∧ crowd.Distinct ∧
    ∃ validator es, Validator.ofDocuments [crowded] {} = .ok validator ∧
      (∀ root ∈ validator.bundle.roots.getLast?,
        validator.Stays { base := root.base, pointer := .root } root.index crowd) ∧
      validator.validate crowd = .ok es ∧
      es.map (fun e => (e.instancePath.tokens, e.schemaPath.tokens)) =
        [([], ["allOf", "0"]), ([], ["allOf", "1", "required", "0"]), ([], ["required", "0"]),
          ([], ["required", "1"]), (["required"], ["properties", "required"]),
          (["required"], ["patternProperties", "required"]),
          (["required"], ["patternProperties", "^r"]), (["required"], ["propertyNames"])] ∧
      es.Nodup := by
  have hd : ∀ document ∈ [crowded], document.Distinct := by
    simp [crowded, Members.Distinct, Value.Distinct, Value.DistinctItems, Value.DistinctMembers]
  have hv : crowd.Distinct := by
    simp [crowd, Members.Distinct, Value.Distinct, Value.DistinctItems, Value.DistinctMembers]
  have hanswer : (Validator.ofDocuments [crowded] {}).toOption.map (fun validator =>
      (validator.bundle.registry.nodes.toList.all fun node => node.ref?.isNone,
        (validator.validate crowd).toOption.map
          (List.map fun e => (e.instancePath.tokens, e.schemaPath.tokens)))) =
      some (true, some [([], ["allOf", "0"]), ([], ["allOf", "1", "required", "0"]),
        ([], ["required", "0"]), ([], ["required", "1"]),
        (["required"], ["properties", "required"]),
        (["required"], ["patternProperties", "required"]),
        (["required"], ["patternProperties", "^r"]), (["required"], ["propertyNames"])]) := by
    decide +kernel
  obtain ⟨validator, h, hanswer⟩ := exists_of_toOption_map hanswer
  obtain ⟨hrefs, hreport⟩ := Prod.mk.inj hanswer
  obtain ⟨es, hes, hplaces⟩ := exists_of_toOption_map hreport
  have hnone : ∀ node ∈ validator.bundle.registry.nodes.toList, node.ref? = none :=
    fun node hmem => Option.isNone_iff_eq_none.mp (List.all_eq_true.mp hrefs node hmem)
  have hstays : ∀ root ∈ validator.bundle.roots.getLast?,
      validator.Stays { base := root.base, pointer := .root } root.index crowd :=
    fun root _ => Validator.stays_of_no_ref hnone _ root.index crowd
  obtain ⟨_, hvalidate, _⟩ := violations_nodup [crowded] hd {} validator h crowd hv
  exact ⟨hd, hv, validator, es, h, hstays, hes, hplaces, hvalidate es hstays hes⟩

/-- Two references to one schema may report the same twice. -/
example : (Validator.ofDocuments [.object [("definitions", .object [("a", .bool false)]),
      ("allOf", .array [.object [("$ref", .string "#/definitions/a")],
        .object [("$ref", .string "#/definitions/a")]])]] {}).toOption.map
      (fun validator => validator.validate .null) =
    some (.ok [⟨⟨[]⟩, ⟨["definitions", "a"]⟩, ""⟩, ⟨⟨[]⟩, ⟨["definitions", "a"]⟩, ""⟩]) := by
  decide +kernel

end JsonSchema
