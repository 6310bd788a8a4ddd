import JsonSchema.Proofs.Compilation.Formed

/-!
# What compilation fails for

A compilation that fails names a place. What stands there is to blame: it should be a schema and is
none, or it is the value of a keyword that has not the form of the keyword, or a member of
`patternProperties` whose name is no pattern, or a member of `dependencies` that is neither a schema
nor a list of names. This holds however deep the place is, since a compilation fails by itself or
because the compilation of a schema inside fails.
-/

namespace JsonSchema

open Value

/-! ## What can be wrong with the keywords of a schema -/

/-- The keywords whose members are looked at one by one. -/
def memberwise : List String := ["patternProperties", "dependencies"]

/-- The forms of the values of keywords, where their members are looked at one by one apart from
these. -/
def shapes (base : BaseUri) : List (String × (Value → Bool)) :=
  (grammar base).filter (fun p => !memberwise.contains p.1) ++
    memberwise.map fun keyword => (keyword, isObjectOf fun _ _ => true)

/-- The way in a schema leads to a value that is not what it has to be there. -/
inductive Misfit (base : BaseUri) (members : Members Value) : List String → Value → Prop
  /-- The value of a keyword has not its form. -/
  | keyword {keyword : String} {form : Value → Bool} {v : Value} : (keyword, form) ∈ shapes base →
      members.get? keyword = some v → form v = false → Misfit base members [keyword] v
  /-- The name of a member of `patternProperties` is no pattern. -/
  | pattern {entries : Members Value} {text : String} {v : Value} :
      members.get? "patternProperties" = some (.object entries) → (text, v) ∈ entries →
      Pattern.ofText? text = none → Misfit base members ["patternProperties", text] v
  /-- A member of `dependencies` is neither a schema nor a list of names. -/
  | dependency {entries : Members Value} {name : String} {v : Value} :
      members.get? "dependencies" = some (.object entries) → (name, v) ∈ entries →
      v.isDependency = false → Misfit base members ["dependencies", name] v

/-- A value that breaks the rule of its place. `stands here v` says that the schema `v` has to stand
at `here`. -/
inductive Breaks (stands : Target → Value → Prop) : Target → Value → Prop
  /-- It has to be a schema and is none. -/
  | notSchema {here : Target} {v : Value} : stands here v → v.isSchema = false →
      Breaks stands here v
  /-- It is a misfit in a schema. -/
  | misfit {here : Target} {members : Members Value} {way : List String} {v : Value} :
      stands here (.object members) → Misfit here.base members way v →
      Breaks stands (here.below way) v

/-- The error names a place and a value there that breaks its rule. -/
def Blames (stands : Target → Value → Prop) (e : SchemaError) : Prop :=
  ∃ place v flaw, Breaks stands place v ∧ e = .malformed (Compile.shownKey place) flaw

/-- The key of a place that is no root has a `#` in it. -/
theorem key_of_not_isRoot {here : Target} (h : here.pointer.isRoot = false) :
    here.key = here.base.text ++ "#" ++ here.pointer.text := by
  unfold Target.key BaseUri.key
  rw [h]
  rfl

theorem shownKey_of_not_isRoot {here : Target} (h : here.pointer.isRoot = false) :
    Compile.shownKey here = here.key := by
  have hhash : '#' ∈ here.key.toList := by
    show '#' ∈ (here.base.key here.pointer).toList
    rw [BaseUri.toList_key _ h]
    exact List.mem_append_right _ List.mem_cons_self
  unfold Compile.shownKey
  rw [if_neg]
  intro hempty
  rw [String.isEmpty_iff.mp hempty] at hhash
  exact absurd hhash List.not_mem_nil

theorem Misfit.ne_nil {base : BaseUri} {members : Members Value} {way : List String} {v : Value}
    (h : Misfit base members way v) : way ≠ [] := by
  cases h <;> exact List.cons_ne_nil _ _

theorem isRoot_below (here : Target) {way : List String} (h : way ≠ []) :
    (here.below way).pointer.isRoot = false := by
  show (here.pointer.tokens ++ way).isEmpty = false
  cases way with
  | nil => exact absurd rfl h
  | cons token rest => simp

theorem blames_misfit {stands : Target → Value → Prop} {here : Target} {members : Members Value}
    {way : List String} {v : Value} (hv : stands here (.object members))
    (h : Misfit here.base members way v) (flaw : Flaw) :
    Blames stands (.malformed (here.below way).key flaw) :=
  ⟨here.below way, v, flaw, .misfit hv h,
    by rw [shownKey_of_not_isRoot (isRoot_below here h.ne_nil)]⟩

namespace Compile

open Reading

variable {α β : Type} {here : Target} {members : Members Value}

/-! ## Reading keywords -/

/-- The error names a misfit in the schema. -/
def Misreads (here : Target) (members : Members Value) (e : SchemaError) : Prop :=
  ∃ way v flaw, Misfit here.base members way v ∧ e = .malformed (here.below way).key flaw

theorem mem_shapes {base : BaseUri} {keyword : String} {form : Value → Bool}
    (h : (keyword, form) ∈ grammar base) (hown : memberwise.contains keyword = false) :
    (keyword, form) ∈ shapes base := by
  refine List.mem_append_left _ (List.mem_filter.mpr ⟨h, ?_⟩)
  rw [hown]
  rfl

theorem mem_shapes_memberwise {base : BaseUri} {keyword : String} (h : keyword ∈ memberwise) :
    (keyword, isObjectOf fun _ _ => true) ∈ shapes base :=
  List.mem_append_right _ (List.mem_map_of_mem h)

/-- A value that has not the form of its keyword is a misfit. -/
theorem misreads_of_form {keyword : String} {form : Value → Bool} {v : Value}
    (hkeyword : (keyword, form) ∈ shapes here.base) (hv : members.get? keyword = some v)
    (hform : form v = false) (flaw : Flaw) : Misreads here members (flawed here keyword flaw) :=
  ⟨[keyword], v, flaw, .keyword hkeyword hv hform, rfl⟩

theorem misreads_of_optional {keyword : String} {form : Value → Bool} {read : Value → Except Flaw α}
    (hkeyword : (keyword, form) ∈ shapes here.base) (h : Recognizes form read) (e : SchemaError)
    (he : optional members keyword read here = .error e) : Misreads here members e := by
  unfold optional at he
  cases hv : members.get? keyword with
  | none => rw [hv] at he; exact nomatch he
  | some v =>
      rw [hv] at he
      dsimp only at he
      have hform := h v
      cases hread : read v with
      | ok a => rw [hread] at he; exact nomatch he
      | error flaw =>
          rw [hread] at he hform
          cases he
          exact misreads_of_form hkeyword hv hform.symm flaw

theorem optional_failsOnly {keyword : String} {form : Value → Bool} {read : Value → Except Flaw α}
    (hkeyword : (keyword, form) ∈ shapes here.base) (h : Recognizes form read) :
    (liftM (optional members keyword read here) : Reading (Option α)).FailsOnly
      (Misreads here members) :=
  failsOnly_lift (misreads_of_optional hkeyword h)

/-- If one computation after another has an error, it is an error of one of them. -/
theorem error_of_bind {Q : SchemaError → Prop} {m : Except SchemaError α}
    {f : α → Except SchemaError β} (hm : ∀ e, m = .error e → Q e)
    (hf : ∀ a e, f a = .error e → Q e) (e : SchemaError) (he : (m >>= f) = .error e) : Q e := by
  rcases bind_eq_error he with he | ⟨a, _, he⟩
  · exact hm e he
  · exact hf a e he

theorem numberRules_misreads (e : SchemaError) (he : numberRules here members = .error e) :
    Misreads here members e := by
  have hnumber : ∀ keyword, (keyword, isNumber) ∈ shapes here.base → ∀ e,
      optional members keyword asDouble here = .error e → Misreads here members e :=
    fun keyword hkeyword => misreads_of_optional hkeyword recognizes_double
  unfold numberRules at he
  refine error_of_bind (misreads_of_optional (mem_shapes (by simp [grammar]) rfl)
    recognizes_positive) (fun _ => ?_) e he
  refine error_of_bind (hnumber _ (mem_shapes (by simp [grammar]) rfl)) fun _ => ?_
  refine error_of_bind (hnumber _ (mem_shapes (by simp [grammar]) rfl)) fun _ => ?_
  refine error_of_bind (hnumber _ (mem_shapes (by simp [grammar]) rfl)) fun _ => ?_
  refine error_of_bind (hnumber _ (mem_shapes (by simp [grammar]) rfl)) fun _ e he => ?_
  cases he

theorem stringRules_misreads (e : SchemaError) (he : stringRules here members = .error e) :
    Misreads here members e := by
  unfold stringRules at he
  refine error_of_bind (misreads_of_optional (mem_shapes (by simp [grammar]) rfl)
    recognizes_count) (fun _ => ?_) e he
  refine error_of_bind (misreads_of_optional (mem_shapes (by simp [grammar]) rfl)
    recognizes_count) fun _ => ?_
  refine error_of_bind (misreads_of_optional (mem_shapes (by simp [grammar]) rfl)
    recognizes_pattern) fun _ e he => ?_
  cases he

theorem schemaOf_failsOnly (keyword : String) :
    (schemaOf here members keyword).FailsOnly (Misreads here members) := by
  unfold schemaOf
  cases members.get? keyword with
  | none => exact failsOnly_pure none
  | some v => exact (failsOnly_sub _ v).map some

theorem schemasAt_failsOnly {Q : SchemaError → Prop} (schemas : List Value) :
    (schemasAt here schemas).FailsOnly Q :=
  failsOnly_mapM fun (p : Value × Nat) _ => failsOnly_sub (here.below [toString p.2]) p.1

theorem schemasOf_failsOnly {keyword : String}
    (hkeyword : (keyword, isNonempty) ∈ shapes here.base) :
    (schemasOf here members keyword).FailsOnly (Misreads here members) := by
  unfold schemasOf
  cases hv : members.get? keyword with
  | none => exact failsOnly_pure none
  | some v =>
      cases v with
      | array schemas =>
          cases schemas with
          | nil => exact misreads_of_form hkeyword hv rfl _
          | cons v rest => exact (schemasAt_failsOnly (v :: rest)).map some
      | _ => exact misreads_of_form hkeyword hv rfl _

theorem itemsOf_failsOnly : (itemsOf here members).FailsOnly (Misreads here members) := by
  have hkeyword : ("items", isItems) ∈ shapes here.base := mem_shapes (by simp [grammar]) rfl
  unfold itemsOf
  cases hv : members.get? "items" with
  | none => exact failsOnly_pure none
  | some v =>
      cases v with
      | array schemas =>
          exact (schemasAt_failsOnly schemas).map fun l => some (Items.positional l)
      | object m => exact (failsOnly_sub _ _).map fun i => some (Items.all i)
      | bool b => exact (failsOnly_sub _ _).map fun i => some (Items.all i)
      | _ => exact misreads_of_form hkeyword hv rfl _

theorem propertyAt_failsOnly {Q : SchemaError → Prop} (name : String) (v : Value) :
    (propertyAt here name v).FailsOnly Q := (failsOnly_sub _ v).map (name, ·)

theorem patternPropertyAt_failsOnly {entries : Members Value}
    (hentries : members.get? "patternProperties" = some (.object entries)) {text : String}
    {v : Value} (hv : (text, v) ∈ entries) :
    (patternPropertyAt here text v).FailsOnly (Misreads here members) := by
  have hpattern := isOk_asPattern text
  unfold patternPropertyAt
  cases ha : asPattern text with
  | error flaw =>
      rw [ha] at hpattern
      have hnone : Pattern.ofText? text = none := Option.not_isSome_iff_eq_none.mp
        (Bool.eq_false_iff.mp hpattern.symm)
      refine ⟨_, v, flaw, .pattern hentries hv hnone, ?_⟩
      unfold flawed
      rw [Target.below_below]
      rfl
  | ok pattern => exact (failsOnly_sub _ v).map (pattern, ·)

theorem dependencyAt_failsOnly {entries : Members Value}
    (hentries : members.get? "dependencies" = some (.object entries)) {name : String} {v : Value}
    (hv : (name, v) ∈ entries) :
    (dependencyAt here name v).FailsOnly (Misreads here members) := by
  have hmisfit : v.isDependency = false → ∀ flaw, Misreads here members
      (flawed (here.below ["dependencies"]) name flaw) := by
    intro hform flaw
    refine ⟨_, v, flaw, .dependency hentries hv hform, ?_⟩
    unfold flawed
    rw [Target.below_below]
    rfl
  unfold dependencyAt
  cases v with
  | array names =>
      have hnames := recognizes_strings (.array names)
      dsimp only
      cases ha : asStrings (.array names) with
      | error flaw =>
          rw [ha] at hnames
          refine hmisfit ?_ flaw
          show (isListOf isText (.array names) || false) = false
          rw [← hnames]
          rfl
      | ok names => exact failsOnly_pure _
  | object m => exact (failsOnly_sub _ _).map fun i => (name, Dependency.schema i)
  | bool b => exact (failsOnly_sub _ _).map fun i => (name, Dependency.schema i)
  | _ => exact hmisfit rfl _

theorem eachMember_failsOnly {entry : String → Value → Reading α} {keyword : String}
    (hkeyword : (keyword, isObjectOf fun _ _ => true) ∈ shapes here.base)
    (h : ∀ entries, members.get? keyword = some (.object entries) → ∀ p ∈ entries,
      (entry p.1 p.2).FailsOnly (Misreads here members)) :
    (eachMember entry here members keyword).FailsOnly (Misreads here members) := by
  unfold eachMember membersOf
  cases hv : members.get? keyword with
  | none => exact failsOnly_pure none
  | some v =>
      cases v with
      | object entries => exact (failsOnly_mapM (h entries hv)).map some
      | _ => exact misreads_of_form hkeyword hv rfl _

theorem combinators_failsOnly :
    (combinators here members).FailsOnly (Misreads here members) := by
  have hlist : ∀ keyword, (keyword, isNonempty) ∈ grammar here.base →
      memberwise.contains keyword = false →
      (schemasOf here members keyword).FailsOnly (Misreads here members) :=
    fun keyword h hown => schemasOf_failsOnly (mem_shapes h hown)
  unfold combinators
  refine (schemaOf_failsOnly "not").bind fun _ => ?_
  refine (schemaOf_failsOnly "if").bind fun _ => ?_
  refine (schemaOf_failsOnly "then").bind fun _ => ?_
  refine (schemaOf_failsOnly "else").bind fun _ => ?_
  refine (hlist "allOf" (by simp [grammar]) rfl).bind fun _ => ?_
  refine (hlist "anyOf" (by simp [grammar]) rfl).bind fun _ => ?_
  exact (hlist "oneOf" (by simp [grammar]) rfl).map _

theorem arrayRules_failsOnly : (arrayRules here members).FailsOnly (Misreads here members) := by
  unfold arrayRules
  refine itemsOf_failsOnly.bind fun _ => ?_
  refine (schemaOf_failsOnly "additionalItems").bind fun _ => ?_
  refine (optional_failsOnly (mem_shapes (by simp [grammar]) rfl) recognizes_count).bind fun _ => ?_
  refine (optional_failsOnly (mem_shapes (by simp [grammar]) rfl) recognizes_count).bind fun _ => ?_
  refine (optional_failsOnly (mem_shapes (by simp [grammar]) rfl) recognizes_bool).bind fun _ => ?_
  exact (schemaOf_failsOnly "contains").map _

theorem objectRules_failsOnly : (objectRules here members).FailsOnly (Misreads here members) := by
  unfold objectRules
  refine (optional_failsOnly (mem_shapes (by simp [grammar]) rfl) recognizes_count).bind fun _ => ?_
  refine (optional_failsOnly (mem_shapes (by simp [grammar]) rfl) recognizes_count).bind fun _ => ?_
  refine (optional_failsOnly (mem_shapes (by simp [grammar]) rfl) recognizes_strings).bind
    fun _ => ?_
  refine (eachMember_failsOnly (mem_shapes (by simp [grammar]) rfl)
    fun _ _ _ _ => propertyAt_failsOnly _ _).bind fun _ => ?_
  refine (eachMember_failsOnly (mem_shapes_memberwise (by simp [memberwise]))
    fun _ hentries _ hp => patternPropertyAt_failsOnly hentries hp).bind fun _ => ?_
  refine (schemaOf_failsOnly "additionalProperties").bind fun _ => ?_
  refine (eachMember_failsOnly (mem_shapes_memberwise (by simp [memberwise]))
    fun _ hentries _ hp => dependencyAt_failsOnly hentries hp).bind fun _ => ?_
  exact (schemaOf_failsOnly "propertyNames").map _

/-- **Reading the keywords of a schema fails for a misfit only.** -/
theorem keywords_failsOnly : (keywords here members).FailsOnly (Misreads here members) := by
  unfold keywords
  refine (optional_failsOnly (mem_shapes (by simp [grammar]) rfl)
    (recognizes_reference here.base)).bind fun _ => ?_
  refine (optional_failsOnly (mem_shapes (by simp [grammar]) rfl) recognizes_types).bind fun _ => ?_
  refine (optional_failsOnly (mem_shapes (by simp [grammar]) rfl) recognizes_array).bind fun _ => ?_
  refine combinators_failsOnly.bind fun _ => ?_
  refine (failsOnly_lift numberRules_misreads).bind fun _ => ?_
  refine (failsOnly_lift stringRules_misreads).bind fun _ => ?_
  refine arrayRules_failsOnly.bind fun _ => ?_
  exact objectRules_failsOnly.map _

/-! ## Compiling -/

/-- Whatever the registry, an error of the computation has the property. -/
def ErrsOnly (Q : SchemaError → Prop) (m : Compile α) : Prop :=
  ∀ r e, (m.run r).1 = .error e → Q e

variable {Q : SchemaError → Prop}

theorem errsOnly_pure (a : α) : ErrsOnly Q (pure a : Compile α) := fun _ _ he => nomatch he

theorem errsOnly_throw {e : SchemaError} (h : Q e) : ErrsOnly Q (throw e : Compile α) := by
  intro r e' he
  cases he
  exact h

theorem errsOnly_register (node : Node) : ErrsOnly Q (register node) := fun _ _ he => nomatch he

theorem ErrsOnly.bind {m : Compile α} {f : α → Compile β} (hm : ErrsOnly Q m)
    (hf : ∀ a, ErrsOnly Q (f a)) : ErrsOnly Q (m >>= f) := by
  intro r e he
  rw [run_bind] at he
  rcases hrun : m.run r with ⟨answer, r'⟩
  rw [hrun] at he
  cases answer with
  | ok a => exact hf a r' e he
  | error e' =>
      cases he
      exact hm r e (by rw [hrun])

/-- A reading that is carried out fails by itself, or compiling something that it asks for does. -/
theorem run_reading_errsOnly {compile : Target → Value → Compile Nat} {m : Reading α}
    {l : List (Target × Value)} (hl : m.Asks l) (hm : m.FailsOnly Q)
    (h : ∀ p ∈ l, ErrsOnly Q (compile p.1 p.2)) : ErrsOnly Q (m.run compile) := by
  induction m generalizing l with
  | done a => exact errsOnly_pure a
  | failed e => exact errsOnly_throw hm
  | needs place v next ih =>
      obtain ⟨rest, rfl, hrest⟩ := hl
      have hplace := h (place, v) List.mem_cons_self
      refine hplace.bind fun i => ih i (hrest i) (hm i) fun p hp => ?_
      exact h p (List.mem_cons_of_mem _ hp)

theorem schema_errsOnly {stands : Target → Value → Prop} {compile : Target → Value → Compile Nat}
    {v : Value} (hv : stands here v) (h : ∀ members, v = .object members →
      ∀ p ∈ Subschemas.under here (Subschemas.inside members),
        ErrsOnly (Blames stands) (compile p.1 p.2)) :
    ErrsOnly (Blames stands) (schema compile here v) := by
  have hnone : v.isSchema = false → ErrsOnly (Blames stands) (throw (notSchema here v)) :=
    fun hshape => errsOnly_throw (α := Nat) ⟨here, v, _, .notSchema hv hshape, rfl⟩
  cases v with
  | bool b => exact errsOnly_register _
  | object members =>
      have hreading := run_reading_errsOnly (keywords_asks here members)
        (keywords_failsOnly.imp fun e ⟨way, w, flaw, hw, he⟩ =>
          he ▸ blames_misfit hv hw flaw) (h members rfl)
      exact hreading.bind fun k => errsOnly_register _
  | _ => exact hnone rfl

/-- **If a schema does not compile, something is to blame** that stands there or further inside. -/
theorem within_errsOnly {stands : Target → Value → Prop} (hclosed : ClosedInside stands)
    {height : Nat} {v : Value} (hv : stands here v) (hheight : v.height ≤ height) :
    ErrsOnly (Blames stands) (within height here v) :=
  within_of_schema hclosed (fun hv h => schema_errsOnly hv h) hv hheight

end Compile

end JsonSchema
