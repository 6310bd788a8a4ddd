import JsonSchema.Proofs.Direct.Contents
import JsonSchema.Proofs.Direct.Refinement
import JsonSchema.Proofs.Evaluation.Blame

/-!
# Every violation points at a real place

At each call of an evaluation the current frame is at the place whose key the node has, and the
value is the one to which the way in the instance leads, or the name of a member there. A call hands
both on to the calls that it makes.

So a violation that is reported at a call points at something in the schema of the node: at the
keyword that is violated, at the entry of the name that is missing, or at the schema if it is
`false`.
-/

namespace JsonSchema

open Compile Direct

/-! ## What violations point at -/

/-- What is evaluated at the end of a way in an instance: the value there, or its name. -/
inductive EvaluatedAt (whole : Value) : List String → Value → Prop
  | value {path : List String} {v : Value} : Pointer.walk path whole = some v →
      EvaluatedAt whole path v
  | name {path : List String} {members : Members Value} {name : String} :
      Pointer.walk path whole = some (.object members) → members.has name = true →
      EvaluatedAt whole (path ++ [name]) (.string name)

/-- What a value violates in a schema that has been compiled to a body: the way to it in the schema,
and what stands there. -/
inductive Fault (registry : Registry) : Body → Value → Value → List String → Value → Prop
  | never {v : Value} : Fault registry (.bool false) v (.bool false) [] (.bool false)
  | keyword {k : Keywords} {v w : Value} {members : Members Value} {keyword : String}
      {demand : Demand} : k.Asks keyword v demand → Verdict registry demand false →
      members.get? keyword = some w →
      Fault registry (.keywords k) v (.object members) [keyword] w
  | required {k : Keywords} {object members : Members Value} {entries : List Value} {n : Nat}
      {name : String} : members.get? "required" = some (.array entries) →
      entries[n]? = some (.string name) → object.has name = false →
      Fault registry (.keywords k) (.object object) (.object members) ["required", toString n]
        (.string name)
  | dependency {k : Keywords} {object members dependencies : Members Value} {owner name : String}
      {entries : List Value} {n : Nat} : members.get? "dependencies" = some (.object dependencies) →
      dependencies.get? owner = some (.array entries) → object.has owner = true →
      entries[n]? = some (.string name) → object.has name = false →
      Fault registry (.keywords k) (.object object) (.object members)
        ["dependencies", owner, toString n] (.string name)

/-- A violation points at a value `v` in the instance and at a value `w` in a document, which is
what `v` violates in the schema at `here`. -/
structure Violation.Located (documents : List Value) (registry : Registry) (whole : Value)
    (e : Violation) (here : Target) (v w : Value) : Prop where
  /-- There is something at the end of the way in the instance. -/
  addresses : (e.instancePath.resolve whole).isSome = true
  /-- It is what was evaluated, or the member with the name that was. -/
  evaluated : EvaluatedAt whole e.instancePath.tokens v
  /-- The document is one of those supplied, and `w` is at the end of the way in it. -/
  document : ∃ document ∈ documents, documentBase .anonymous document = .ok here.base ∧
    e.schemaUri = here.base.text ∧ e.schemaPath.resolve document = some w
  /-- The way leads through the schema, and from there to what is violated. -/
  fault : ∃ i node schema tokens, registry.lookup here.key = some i ∧
    registry.get? i = some node ∧ valueAt documents here = some schema ∧
    e.schemaPath = (here.below tokens).pointer ∧ Fault registry node.body v schema tokens w

/-- The current frame is at the place of the node: its key is the URI of the node. -/
def Eval.Call.AtNode (registry : Registry) (c : Eval.Call) : Prop :=
  ∃ (here : Target) (rest : List Frame) (node : Node),
    c.places.frames = ⟨here.base.text, here.pointer.tokens⟩ :: rest ∧
      registry.get? c.index = some node ∧ node.uri = here.key

/-! ## The value at hand -/

namespace EvaluatedAt

variable {whole v : Value} {path : List String}

theorem exists_walk (h : EvaluatedAt whole path v) : ∃ u, Pointer.walk path whole = some u := by
  cases h with
  | value hwalk => exact ⟨v, hwalk⟩
  | name hwalk hname =>
      obtain ⟨u, hu⟩ := Option.isSome_iff_exists.mp hname
      refine ⟨u, ?_⟩
      rw [Pointer.walk_append, hwalk]
      exact (Pointer.walk_singleton _ _).trans hu

theorem distinct (h : EvaluatedAt whole path v) (hw : whole.Distinct) : v.Distinct := by
  cases h with
  | value hwalk => exact (Pointer.walk_inside hwalk).2 hw
  | name _ _ => trivial

/-- What is put to a sub-schema is at the end of the longer way. -/
theorem puts (h : EvaluatedAt whole path v) {token : Option String} {u : Value}
    (hu : v.Puts token u) : EvaluatedAt whole (path ++ token.toList) u := by
  cases hu with
  | same => rw [Option.toList_none, List.append_nil]; exact h
  | part hstep =>
      cases h with
      | value hwalk =>
          refine .value ?_
          rw [Pointer.walk_append, hwalk]
          exact (Pointer.walk_singleton _ _).trans hstep
      -- a name has no parts
      | name _ _ => exact nomatch hstep
  | name hname => cases h with | value hwalk => exact .name hwalk hname

end EvaluatedAt

theorem EvalStack.instancePath_below (s : EvalStack) (tokens : List String)
    (token : Option String) :
    (s.below tokens token).instancePath = s.instancePath ++ token.toList := by
  have htokens : (tokens.foldl pushToken s).instancePath = s.instancePath := by
    induction tokens generalizing s with
    | nil => rfl
    | cons t rest ih =>
        rw [List.foldl_cons, ih]
        unfold pushToken
        split <;> rfl
  cases token with
  | none => exact htokens.trans (List.append_nil _).symm
  | some t => exact congrArg (· ++ [t]) htokens

/-! ## What one call hands on to the next -/

/-- Each branch of a node was compiled from one of its schema. -/
theorem Registry.Represents.branches {r : Registry} {i : Nat} {here : Target} {v : Value}
    {k : Keywords} (h : r.Represents i here v (.keywords k)) {w : Value} {task : Task Nat}
    (htask : task ∈ k.ownTasks w) :
    (∀ c ∈ task.branches, ∃ b, CompiledBranch here (r.IndexBelow i) b c) ∧
      ∀ target schema u, task ≠ .follow target schema u := by
  cases h with
  | @keywords members _ ref hyields _ =>
      have htasks : CompiledTasks here (r.IndexBelow i) (Direct.ownTasks here members w)
          (k.ownTasks w) := (Compile.compiled_keywords hyields).2 w
      obtain ⟨task', hrel⟩ := exists_of_mem_right htasks htask
      exact hrel.branches

section

variable {documents : List Value} {registry : Registry} {whole : Value}
  (hf : registry.Faithful (StandsAt documents)) {c c' : Eval.Call} {spot : Spot}
  (hb : Beside registry c.places spot c.index)
include hf hb

/-- A node represents the schema at the spot. -/
theorem Beside.represents {node : Node} (hn : registry.get? c.index = some node) :
    ∃ schema, valueAt documents spot.schema = some schema ∧
      registry.Represents c.index spot.schema schema node.body := by
  obtain ⟨node', schema, hnode, _, hschema, hrep⟩ := represents_of_lookup hf hb.index
  rw [hn] at hnode
  cases hnode
  exact ⟨schema, hschema, hrep⟩

/-- Only the reference of a node is followed, with the same value. -/
theorem Beside.follow_eq {node : Node} {k : Keywords} (hn : registry.get? c.index = some node)
    (hk : node.body = .keywords k) {target : Target} {schema : Option Nat} {v : Value}
    (h : .follow target schema v ∈ k.tasks c.value) :
    v = c.value ∧ ∃ ref, node.ref? = some ref ∧ ref.target = target ∧ ref.resolved = schema := by
  obtain ⟨_, _, hrep⟩ := hb.represents hf hn
  rw [hk] at hrep
  unfold Node.ref?
  rw [hk]
  rcases Keywords.mem_tasks h with ⟨ref, href, heq⟩ | h
  · cases heq
    exact ⟨rfl, ref, href, rfl, rfl⟩
  · exact absurd rfl ((hrep.branches h).2 target schema v)

/-- The next call is at the place of its node, too. -/
theorem Beside.calls (hcall : Eval.Calls registry c c') :
    ∃ spot', Beside registry c'.places spot' c'.index := by
  cases hcall with
  | @branch node k task b hn hk htask hbranch =>
      obtain ⟨_, _, hrep⟩ := hb.represents hf hn
      rw [hk] at hrep
      -- the task of a reference has no branches
      rcases Keywords.mem_tasks htask with ⟨ref, _, rfl⟩ | htask
      · exact absurd hbranch List.not_mem_nil
      · obtain ⟨b', hb'⟩ := (hrep.branches htask).1 b hbranch
        exact ⟨spot.branch b', hb.here.branch hb', hb'.index.2⟩
  | @follow node k target j v hn hk htask =>
      obtain ⟨_, ref, href, rfl, hj⟩ := hb.follow_eq hf hn hk htask
      exact ⟨spot.follow ref.target, hb.here.pushFrame ref.target,
        hf.lookup_of_resolved hn href hj⟩

/-- Its value is at the end of its way in the instance. -/
theorem EvaluatedAt.calls (hw : whole.Distinct)
    (hv : EvaluatedAt whole c.places.instancePath c.value) (hcall : Eval.Calls registry c c') :
    EvaluatedAt whole c'.places.instancePath c'.value := by
  cases hcall with
  | @branch node k task b hn hk htask hbranch =>
      rcases Keywords.mem_tasks htask with ⟨ref, _, rfl⟩ | htask
      · exact absurd hbranch List.not_mem_nil
      · have hsuits : task.Suits registry k c.value :=
          Keywords.suits_ownTasks (hv.distinct hw) task htask
        dsimp only
        rw [EvalStack.instancePath_below]
        exact hv.puts (hsuits.puts b hbranch)
  | @follow node k target j v hn hk htask =>
      obtain ⟨rfl, _⟩ := hb.follow_eq hf hn hk htask
      exact hv

/-- And so it is for all calls of an evaluation. -/
theorem Beside.run (hcalls : Relation.ReflTransGen (Eval.Calls registry) c c') :
    ∃ spot', Beside registry c'.places spot' c'.index := by
  induction hcalls with
  | refl => exact ⟨spot, hb⟩
  | tail _ hcall ih =>
      obtain ⟨_, hb'⟩ := ih
      exact hb'.calls hf hcall

theorem EvaluatedAt.run (hw : whole.Distinct)
    (hv : EvaluatedAt whole c.places.instancePath c.value)
    (hcalls : Relation.ReflTransGen (Eval.Calls registry) c c') :
    EvaluatedAt whole c'.places.instancePath c'.value := by
  induction hcalls with
  | refl => exact hv
  | tail hcalls hcall ih =>
      obtain ⟨_, hb'⟩ := hb.run hf hcalls
      exact ih.calls hf hb' hw hcall

end

/-! ## What is reported at a call -/

section

variable {index : Target → Nat → Prop} {here : Target} {members : Members Value} {k : Keywords}

theorem exists_of_facet {α : Type} {keyword : String} {stands : Value → α → Prop} {o : Option α}
    (h : Facet members keyword stands o) {a : α} (ha : o = some a) :
    ∃ w, members.get? keyword = some w ∧ stands w a := by
  unfold Facet at h
  rw [ha] at h
  generalize members.get? keyword = v at h ⊢
  cases h with
  | some hw => exact ⟨_, rfl, hw⟩

/-- A keyword that asks for something stands in the schema. -/
theorem KeywordsOf.present (h : KeywordsOf index here members k) {keyword : String} {v : Value}
    {demand : Demand} (ha : k.Asks keyword v demand) : ∃ w, members.get? keyword = some w := by
  have hfacet : ∀ {α : Type} {keyword : String} {stands : Value → α → Prop} {o : Option α} {a : α},
      Facet members keyword stands o → o = some a → ∃ w, members.get? keyword = some w :=
    fun hf ho => (exists_of_facet hf ho).imp fun _ hw => hw.1
  cases ha with
  | const hc => exact ⟨_, h.const.symm.trans hc⟩
  | enum ho => exact hfacet h.enum ho
  | type ho => exact hfacet h.types ho
  | not ho => exact hfacet h.combinators.negated ho
  | anyOf ho => exact hfacet h.combinators.anyOf ho
  | oneOf ho => exact hfacet h.combinators.oneOf ho
  | multipleOf ho => exact hfacet h.numbers.multipleOf ho
  | maximum ho => exact hfacet h.numbers.maximum ho
  | minimum ho => exact hfacet h.numbers.minimum ho
  | exclusiveMaximum ho => exact hfacet h.numbers.exclusiveMaximum ho
  | exclusiveMinimum ho => exact hfacet h.numbers.exclusiveMinimum ho
  | maxLength ho => exact hfacet h.strings.maxLength ho
  | minLength ho => exact hfacet h.strings.minLength ho
  | pattern ho => exact hfacet h.strings.pattern ho
  | maxItems ho => exact hfacet h.arrays.maxItems ho
  | minItems ho => exact hfacet h.arrays.minItems ho
  | uniqueItems hu => exact ⟨_, h.arrays.uniqueItems.mp hu⟩
  | contains ho => exact hfacet h.arrays.contains ho
  | maxProperties ho => exact hfacet h.objects.maxProperties ho
  | minProperties ho => exact hfacet h.objects.minProperties ho

variable {registry : Registry}

/-- What is reported stands in the schema. -/
theorem exists_fault (h : KeywordsOf index here members k) (hd : (Value.object members).Distinct)
    {v : Value} {tokens : List String} (hblamed : k.Blamed registry v tokens) :
    ∃ w, Fault registry (.keywords k) v (.object members) tokens w := by
  cases hblamed with
  | keyword hasks hverdict =>
      obtain ⟨w, hw⟩ := h.present hasks
      exact ⟨w, .keyword hasks hverdict hw⟩
  | @required object names name n hr hname hnot =>
      obtain ⟨w, hw, hread⟩ := exists_of_facet h.objects.required hr
      rw [asStrings_eq_ok hread] at hw
      refine ⟨.string name, .required hw ?_ hnot⟩
      rw [List.getElem?_map, hname]
      rfl
  | @dependency object dependencies owner name names n hdep hmem howner hname hnot =>
      obtain ⟨w, hw, m, rfl, hentries⟩ := exists_of_facet h.objects.dependencies hdep
      have hentries := (List.forall₂_and_left (p := (· ∈ m)) _ _).mpr ⟨fun _ h => h, hentries⟩
      obtain ⟨⟨owner', u⟩, hentry, hu⟩ := exists_of_mem_right hentries hmem
      -- the names come from an array: the other form is a sub-schema
      cases hu with
      | required hread =>
          rw [asStrings_eq_ok hread] at hentry
          have hdm := (Value.distinct_object.mp hd).2 _ (Members.mem_of_get? hw)
          refine ⟨.string name, .dependency hw (Pointer.step_member hdm hentry) howner ?_ hnot⟩
          rw [List.getElem?_map, hname]
          rfl

end

/-- The way of a fault leads to it. -/
theorem Fault.walk {registry : Registry} {body : Body} {v schema w : Value} {tokens : List String}
    (h : Fault registry body v schema tokens w) : Pointer.walk tokens schema = some w := by
  cases h with
  | never => rfl
  | keyword _ _ hw => exact (Pointer.walk_singleton _ _).trans hw
  | @required _ _ members entries n _ hentries hname _ =>
      rw [Pointer.walk_pair]
      show (members.get? "required").bind _ = _
      rw [hentries]
      exact (Pointer.step_element entries n).trans hname
  | @dependency _ _ members dependencies owner _ entries n hdependencies hentries _ hname _ =>
      rw [Pointer.walk_cons]
      show (members.get? "dependencies").bind _ = _
      rw [hdependencies]
      dsimp only [Option.bind_some]
      rw [Pointer.walk_pair]
      show (dependencies.get? owner).bind _ = _
      rw [hentries]
      exact (Pointer.step_element entries n).trans hname

section

variable {documents : List Value} {registry : Registry} {whole : Value} {c : Eval.Call}
  {spot : Spot} (hf : registry.Faithful (StandsAt documents))
  (hb : Beside registry c.places spot c.index)
include hf hb

omit hf in
/-- A violation at a spot is located if it is about a fault of the schema there. -/
theorem Beside.located (hv : EvaluatedAt whole c.places.instancePath c.value) {node : Node}
    (hn : registry.get? c.index = some node) {schema w : Value}
    (hschema : valueAt documents spot.schema = some schema) {tokens : List String}
    (hfault : Fault registry node.body c.value schema tokens w) :
    (spot.violation tokens).Located documents registry whole spot.schema c.value w := by
  have hpath : EvaluatedAt whole spot.path c.value := hb.here.path ▸ hv
  obtain ⟨u, hu⟩ := hpath.exists_walk
  obtain ⟨document, hdocument, hwalk⟩ := Option.bind_eq_some_iff.mp hschema
  obtain ⟨hmem, hbase⟩ := mem_of_documentAt hdocument
  refine ⟨?_, hpath, ⟨document, hmem, hbase, rfl, ?_⟩,
    ⟨c.index, node, schema, tokens, hb.index, hn, hschema, rfl, hfault⟩⟩
  · rw [Pointer.resolve_eq_walk]
    exact Option.isSome_iff_exists.mpr ⟨u, hu⟩
  · rw [Pointer.resolve_eq_walk]
    show Pointer.walk (spot.schema.pointer.tokens ++ tokens) document = some w
    rw [Pointer.walk_append, hwalk]
    exact hfault.walk

/-- **A violation that is reported at a call is located.** -/
theorem located_of_reports (hd : ∀ document ∈ documents, document.Distinct)
    (hl : registry.Linked) (hw : whole.Distinct)
    (hv : EvaluatedAt whole c.places.instancePath c.value) {e : Violation}
    (h : Eval.Reports registry c e) :
    ∃ w, e.Located documents registry whole spot.schema c.value w := by
  cases h with
  | @never node hn hbody =>
      obtain ⟨schema, hschema, hrep⟩ := hb.represents hf hn
      rw [hb.here.violation_eq]
      have hfault : Fault registry node.body c.value schema [] (.bool false) := by
        rw [hbody] at hrep ⊢
        cases hrep
        exact .never
      exact ⟨_, hb.located hv hn hschema hfault⟩
  | @task node k task tokens hn hk htask hreports hverdict =>
      obtain ⟨schema, hschema, hrep⟩ := hb.represents hf hn
      have hviolation : (c.places.below tokens none).violation = spot.violation tokens := by
        rw [(hb.here.below tokens none).violation_eq]
        simp only [Spot.violation, Target.below, List.append_nil, Option.toList]
      -- the references of a node of an accepted bundle are linked, so it carries its keywords
      have hcarries := carries_of_represents hrep fun _ hk' _ href =>
        hl hn (Node.ref?_of_keywords hk' href)
      rcases Keywords.mem_tasks htask with ⟨ref, _, rfl⟩ | htask
      · cases hreports
      · have hsuits : task.Suits registry k c.value :=
          Keywords.suits_ownTasks (hv.distinct hw) task htask
        have hblamed := hsuits.reports tokens hreports hverdict
        have hfault : ∃ w, Fault registry node.body c.value schema tokens w := by
          have hdistinct := distinct_of_valueAt hd hschema
          rw [hk] at hcarries ⊢
          cases hcarries with
          | keywords hkeywords => exact exists_fault hkeywords hdistinct hblamed
        obtain ⟨w, hfault⟩ := hfault
        rw [hviolation]
        exact ⟨w, hb.located hv hn hschema hfault⟩

end

/-! ## Accepted documents -/

section

variable {documents : List Value} {registry : Registry}
  (hf : registry.Faithful (StandsAt documents)) {here : Target} {i : Nat}
  (hi : registry.lookup here.key = some i)
include hf hi

omit hf in
/-- The first call of an evaluation is at the place of its node. -/
theorem beside_start (v : Value) : ∃ spot,
    Beside registry (Eval.Call.start ⟨here.base.text, here.pointer.tokens⟩ i v).places spot i :=
  ⟨{ schema := here, path := [], depth := 1 }, ⟨rfl, [], rfl, rfl⟩, hi⟩

/-- **At every call the current frame is at the place of the node.** -/
theorem atNode_of_run {v : Value} {c : Eval.Call} (h : Relation.ReflTransGen (Eval.Calls registry)
    (.start ⟨here.base.text, here.pointer.tokens⟩ i v) c) : c.AtNode registry := by
  obtain ⟨_, hstart⟩ := beside_start hi v
  obtain ⟨spot, hb⟩ := hstart.run hf h
  obtain ⟨rest, hframes, _⟩ := hb.here.frames
  obtain ⟨node, hnode, huri⟩ := hf.coherent _ _ hb.index
  exact ⟨spot.schema, rest, node, hframes, hnode, huri⟩

theorem located_of_evaluate (hd : ∀ document ∈ documents, document.Distinct)
    (hl : registry.Linked) {limit cap : Nat} {whole : Value} (hw : whole.Distinct)
    {es : List Violation}
    (h : registry.evaluate limit cap ⟨here.base.text, here.pointer.tokens⟩ i whole = .ok es)
    {e : Violation} (he : e ∈ es) :
    ∃ there v w, e.Located documents registry whole there v w := by
  -- the places are right at the first call, so they are at the one where `e` is reported
  obtain ⟨c, hcalls, hreports⟩ := reported_of_evaluate h he
  obtain ⟨_, hstart⟩ := beside_start hi whole
  obtain ⟨spot, hb⟩ := hstart.run hf hcalls
  have hv := EvaluatedAt.run hf hstart hw (.value rfl) hcalls
  obtain ⟨w, hlocated⟩ := located_of_reports hf hb hd hl hw hv hreports
  exact ⟨spot.schema, c.value, w, hlocated⟩

end

/-- **Every violation points at a real place**: at a value in the instance, and at what that value
violates in one of the documents, which is the keyword, the entry of a name that is missing, or the
schema `false`. For at every call of an evaluation the current frame is at the place of the node. -/
theorem violations_located (documents : List Value)
    (hd : ∀ document ∈ documents, document.Distinct) (config : Config) (validator : Validator)
    (h : Validator.ofDocuments documents config = .ok validator) :
    (∀ whole es, whole.Distinct → validator.validate whole = .ok es → ∀ e ∈ es,
      ∃ here v w, e.Located documents validator.bundle.registry whole here v w) ∧
    (∀ selector whole es, whole.Distinct → validator.validateAt selector whole = .ok es →
      ∀ e ∈ es, ∃ here v w, e.Located documents validator.bundle.registry whole here v w) ∧
    ∀ (here : Target) (i : Nat) (v : Value) (c : Eval.Call),
      validator.bundle.registry.lookup here.key = some i →
      Relation.ReflTransGen (Eval.Calls validator.bundle.registry)
        (.start ⟨here.base.text, here.pointer.tokens⟩ i v) c →
      c.AtNode validator.bundle.registry := by
  obtain ⟨bundle, hbundle, hvalidator⟩ := bind_eq_ok h
  cases hvalidator
  obtain ⟨hf, hl, hroots⟩ := Bundle.linked_of_ofDocuments (supports_valueAt hd) hbundle
  refine ⟨fun whole es hw hes e he => ?_, fun selector whole es hw hes e he => ?_,
    fun here i v c hi hcalls => atNode_of_run hf hi hcalls⟩
  · unfold Validator.validate at hes
    cases hr : bundle.roots.getLast? with
    | none => simp only [hr] at hes; exact nomatch hes
    | some root =>
        simp only [hr] at hes
        -- an evaluation starts at the last document, whose root is the node of its base
        obtain ⟨_, _, hfound⟩ := exists_of_mem_right hroots (List.mem_of_getLast? hr)
        have hkey : bundle.registry.lookup (Target.key { base := root.base, pointer := .root }) =
            some root.index := hfound
        exact located_of_evaluate hf hkey hd hl hw hes he
  · unfold Validator.validateAt at hes
    cases ht : Target.ofSelector selector with
    | error cause => rw [ht] at hes; exact nomatch hes
    | ok target =>
        rw [ht] at hes
        dsimp only at hes
        cases hi : bundle.registry.lookup target.key with
        | none => rw [hi] at hes; exact nomatch hes
        | some i =>
            rw [hi] at hes
            exact located_of_evaluate hf hi hd hl hw hes he

/-- A document with a schema for names, which is referred to by an escaped pointer. -/
def forNames : Value :=
  .object [("$id", .string "urn:b"), ("a/b", .object [("maxLength", .number (.integer 2))])]

/-- A document that asks for names, and refers to that schema. -/
def asking : Value :=
  .object [("$id", .string "urn:a"), ("required", .array [.string "x/y", .string "z"]),
    ("properties", .object [("x/y", .bool false)]),
    ("dependencies", .object [("x/y", .array [.string "w"])]),
    ("propertyNames", .object [("$ref", .string "urn:b#/a~1b")])]

theorem violations_located_asking :
    (∀ document ∈ [forNames, asking], document.Distinct) ∧
    (Value.object [("x/y", .null)]).Distinct ∧
    ∃ validator es, Validator.ofDocuments [forNames, asking] {} = .ok validator ∧
      validator.validate (.object [("x/y", .null)]) = .ok es ∧
      es = [⟨⟨[]⟩, ⟨["required", "1"]⟩, "urn:a"⟩,
        ⟨⟨["x/y"]⟩, ⟨["properties", "x/y"]⟩, "urn:a"⟩,
        ⟨⟨[]⟩, ⟨["dependencies", "x/y", "0"]⟩, "urn:a"⟩,
        ⟨⟨["x/y"]⟩, ⟨["a/b", "maxLength"]⟩, "urn:b"⟩] ∧
      ∀ e ∈ es, ∃ here v w, e.Located [forNames, asking] validator.bundle.registry
        (.object [("x/y", .null)]) here v w := by
  have hd : ∀ document ∈ [forNames, asking], document.Distinct := by
    simp [forNames, asking, Members.Distinct, Value.Distinct, Value.DistinctItems,
      Value.DistinctMembers]
  have hw : (Value.object [("x/y", .null)]).Distinct := by
    simp [Members.Distinct, Value.Distinct, Value.DistinctMembers]
  have hreport : (Validator.ofDocuments [forNames, asking] {}).toOption.map
      (fun validator => validator.validate (.object [("x/y", .null)])) =
        some (.ok [⟨⟨[]⟩, ⟨["required", "1"]⟩, "urn:a"⟩,
          ⟨⟨["x/y"]⟩, ⟨["properties", "x/y"]⟩, "urn:a"⟩,
          ⟨⟨[]⟩, ⟨["dependencies", "x/y", "0"]⟩, "urn:a"⟩,
          ⟨⟨["x/y"]⟩, ⟨["a/b", "maxLength"]⟩, "urn:b"⟩]) := by
    decide +kernel
  cases hv : Validator.ofDocuments [forNames, asking] {} with
  | error e => rw [hv] at hreport; cases hreport
  | ok validator =>
      rw [hv] at hreport
      have hes := Option.some.inj hreport
      exact ⟨hd, hw, validator, _, rfl, hes, rfl,
        (violations_located [forNames, asking] hd {} validator hv).1 _ _ hw hes⟩

end JsonSchema
