import JsonSchema.Proofs.Direct.Located

/-!
# A keyword is reported if it is violated

A report tells of a keyword of some schema if the value as a whole violates the keyword, and of no
other keyword. This is for schemas anywhere in accepted documents, whatever else they say, and for
keywords whose value is a number: the schemas inside and the names that are required have ways of
their own, which do not lead to a number.
-/

namespace JsonSchema

open Compile Direct

/-- The report blames the value as a whole for a keyword of the schema at a place. -/
def Report.Blames (report : Report) (here : Target) (keyword : String) : Prop :=
  ⟨.root, (here.below [keyword]).pointer, here.base.text⟩ ∈ report

/-- The way to a keyword tells the schema and the keyword. -/
theorem Target.below_inj {here there : Target} {token token' : String}
    (h : here.below [token] = there.below [token']) : here = there ∧ token = token' := by
  obtain ⟨base, ⟨tokens⟩⟩ := here
  obtain ⟨base', ⟨tokens'⟩⟩ := there
  unfold below at h
  simp only [mk.injEq, Pointer.mk.injEq] at h
  obtain ⟨rfl, htokens⟩ := h
  obtain ⟨rfl, hlast⟩ := List.append_inj' htokens rfl
  exact ⟨rfl, List.head_eq_of_cons_eq hlast⟩

/-- Without a cap, what a task among others reports is found in the end. -/
theorem Site.Gathers.mem_found_of_check {site : Site Nat} (hg : site.Gathers)
    {tasks : List (Task Nat)} {tokens : List String} (h : .check true tokens ∈ tasks)
    {out out' : Violations} (hcap : out.cap = 0) (hok : site.performAll tasks out = .ok out') :
    site.violation tokens ∈ out'.found := by
  obtain ⟨front, back, rfl⟩ := List.append_of_mem h
  rw [performAll_append] at hok
  obtain ⟨mid, hmid, hok⟩ := bind_eq_ok hok
  have hroom : ¬ mid.isFull = true := by
    rw [Violations.not_isFull_iff]
    exact .inl ((hg.performAll front out mid hmid).2.trans hcap)
  -- it is added after the tasks in front, and those behind it only add
  have hrest : site.performAll back (mid.add (site.violation tokens)) = .ok out' := hok
  refine (hg.performAll back _ out' hrest).1.subset ?_
  unfold Violations.add
  rw [if_neg hroom]
  exact List.mem_append_right _ List.mem_cons_self

/-- What a keyword that is present is read as. -/
theorem exists_of_present {α : Type} {members : Members Value} {keyword : String}
    {read : Value → Except Flaw α} {o : Option α} (h : Facet members keyword (ReadAs read) o)
    {w : Value} (hw : members.get? keyword = some w) : ∃ a, read w = .ok a ∧ o = some a := by
  unfold Facet at h
  rw [hw] at h
  cases h with
  | some hread => exact ⟨_, hread, rfl⟩

/-- A keyword checks a condition of a value, and asks for nothing else. -/
structure Keywords.Checks (k : Keywords) (keyword : String) (v : Value) (violated : Bool) :
    Prop where
  checked : .check violated [keyword] ∈ k.tasks v
  only : ∀ demand, k.Asks keyword v demand → demand = .holds (!violated)

/-! ## Accepted documents -/

/-- The documents are accepted, and the schema with these members is at a place that has a node. -/
structure Validator.HasSchema (documents : List Value) (config : Config) (validator : Validator)
    (here : Target) (i : Nat) (members : Members Value) : Prop where
  accepted : Validator.ofDocuments documents config = .ok validator
  distinct : ∀ document ∈ documents, document.Distinct
  found : validator.bundle.registry.lookup here.key = some i
  schema : valueAt documents here = some (.object members)

namespace Validator.HasSchema

variable {documents : List Value} {config : Config} {validator : Validator} {here : Target}
  {i : Nat} {members : Members Value}

theorem linked (h : HasSchema documents config validator here i members) :
    validator.config = config ∧ validator.bundle.registry.Faithful (StandsAt documents) ∧
      validator.bundle.registry.Linked := by
  obtain ⟨bundle, hbundle, hvalidator⟩ := bind_eq_ok h.accepted
  cases hvalidator
  obtain ⟨hf, hl, _⟩ := Bundle.linked_of_ofDocuments (supports_valueAt h.distinct) hbundle
  exact ⟨rfl, hf, hl⟩

/-- The node carries what the members say. -/
theorem exists_keywords (h : HasSchema documents config validator here i members) :
    ∃ node k, validator.bundle.registry.get? i = some node ∧ node.body = .keywords k ∧
      KeywordsOf (fun there j => validator.bundle.registry.lookup there.key = some j) here members
        k := by
  obtain ⟨_, hf, hl⟩ := h.linked
  obtain ⟨node, v, hnode, _, hv, hrep⟩ := represents_of_lookup hf h.found
  rw [h.schema] at hv
  cases hv
  have hcarries := carries_of_represents hrep fun k hk ref href =>
    hl hnode (Node.ref?_of_keywords hk href)
  cases hbody : node.body with
  | bool b => rw [hbody] at hcarries; cases hcarries
  | keywords k =>
      rw [hbody] at hcarries
      cases hcarries with
      | keywords hkeywords => exact ⟨node, k, hnode, hbody, hkeywords⟩

variable {node : Node} {k : Keywords} {keyword : String} {v : Value} {es : Report}

/-- A condition that is violated is reported, if there is no cap. -/
theorem blames_of_check (h : HasSchema documents config validator here i members)
    (hn : validator.bundle.registry.get? i = some node) (hk : node.body = .keywords k)
    (huncapped : config.maxErrors = 0) (hes : validator.runAt here i v = .ok es)
    (hcheck : .check true [keyword] ∈ k.tasks v) : es.Blames here keyword := by
  obtain ⟨hconfig, _⟩ := h.linked
  obtain ⟨out, hout, rfl⟩ := evaluate_eq_ok.mp hes
  rw [hconfig, huncapped] at hout
  -- whatever is the bound on how deep it goes, the node performs its tasks
  have hnode : ∀ answers : Eval.Answers, answers.Gathers →
      Eval.nodeAnswer validator.bundle.registry config.maxStackDepth answers
        (EvalStack.empty.pushFrame ⟨here.base.text, here.pointer.tokens⟩) i v (.none 0) =
          .ok out → Report.Blames out.found here keyword := by
    intro answers hg hok
    unfold Eval.nodeAnswer at hok
    rw [if_neg (by decide), hn] at hok
    dsimp only at hok
    rw [hk] at hok
    exact (Eval.site_gathers hg _ _).mem_found_of_check hcheck rfl hok
  cases hsteps : Eval.steps validator.bundle.registry config.maxStackDepth with
  | zero =>
      rw [hsteps] at hout
      refine hnode _ ?_ hout
      intro s i v out out' hok
      exact nomatch hok
  | succ steps =>
      rw [hsteps] at hout
      exact hnode _ (Eval.answerWithin_gathers _ _ steps) hout

/-- A keyword that is reported is violated, if its value is a number. -/
theorem asks_of_blames (h : HasSchema documents config validator here i members)
    (hn : validator.bundle.registry.get? i = some node) (hk : node.body = .keywords k)
    {m : Number} (hm : members.get? keyword = some (.number m)) (hv : v.Distinct)
    (hes : validator.runAt here i v = .ok es) (hblames : es.Blames here keyword) :
    ∃ demand, k.Asks keyword v demand ∧
      Verdict validator.bundle.registry demand false := by
  obtain ⟨_, hf, hl⟩ := h.linked
  obtain ⟨there, u, w, hlocated⟩ := located_of_evaluate hf h.found h.distinct hl hv hes hblames
  obtain ⟨_, _, _, htext, _⟩ := hlocated.document
  obtain ⟨j, node', schema, tokens, hj, hn', hschema, hpath, hfault⟩ := hlocated.fault
  -- the way to the fault is the way to the number, and it starts in the same document
  have hplace : here.below [keyword] = there.below tokens := by
    have hbase : here.base = there.base := BaseUri.text_injective htext
    have hway : (here.below [keyword]).pointer = (there.below tokens).pointer := hpath
    show Target.mk here.base (here.below [keyword]).pointer = ⟨there.base, _⟩
    rw [hbase, hway]
    rfl
  have hw : w = .number m := by
    have hwalk := valueAt_below hschema tokens
    rw [hfault.walk, ← hplace, valueAt_below h.schema, Pointer.walk_singleton] at hwalk
    exact Option.some.inj (hwalk.symm.trans hm)
  have hu : u = v := by
    have hevaluated := hlocated.evaluated
    generalize hway : Pointer.tokens _ = way at hevaluated
    cases hevaluated with
    | value hwalk =>
        rw [← hway] at hwalk
        exact (Option.some.inj hwalk).symm
    -- a name is behind the way to its object
    | name _ _ => exact absurd hway.symm (List.append_ne_nil_of_right_ne_nil _ (by simp))
  subst hw hu
  generalize hbody : node'.body = body at hfault
  cases hfault with
  | @keyword k' _ _ _ keyword' demand hasks hverdict hget =>
      -- the last token is the keyword, and the others lead to its schema
      obtain ⟨rfl, rfl⟩ := Target.below_inj hplace
      rw [h.found] at hj
      cases hj
      rw [hn] at hn'
      cases hn'
      rw [hk] at hbody
      cases hbody
      exact ⟨demand, hasks, hverdict⟩

/-- **A keyword whose value is a number is reported if the condition that it checks is violated**,
and only then. -/
theorem blames_iff (h : HasSchema documents config validator here i members)
    (huncapped : config.maxErrors = 0) {m : Number}
    (hm : members.get? keyword = some (.number m)) (hv : v.Distinct)
    (hes : validator.runAt here i v = .ok es) {violated : Bool}
    (hchecks : ∀ k index, KeywordsOf index here members k → k.Checks keyword v violated) :
    es.Blames here keyword ↔ violated = true := by
  obtain ⟨node, k, hn, hk, hkeywords⟩ := h.exists_keywords
  have hchecks := hchecks k _ hkeywords
  constructor
  · intro hblames
    obtain ⟨demand, hasks, hverdict⟩ := h.asks_of_blames hn hk hm hv hes hblames
    rw [hchecks.only demand hasks] at hverdict
    cases violated with
    | true => rfl
    | false => exact nomatch hverdict
  · rintro rfl
    exact h.blames_of_check hn hk huncapped hes hchecks.checked

end Validator.HasSchema

end JsonSchema
