import JsonSchema.Proofs.Direct.Alike
import JsonSchema.Proofs.Evaluation.Concordant
import JsonSchema.Proofs.Direct.Tasks

/-!
# The tasks of a restated schema for a restated value

The members of a schema, and those of the value put to it, may stand in another order. Then the
tasks stand in another order, too, and so do the branches of an object. But each task has its
counterpart: the same condition, or branches to the same places.
-/

namespace JsonSchema.Direct

open Value

/-- The branches lead to the same place, and the values put to it restate each other. -/
structure RestatesBranch (b c : Branch Target) : Prop where
  token : b.token = c.token
  schema : b.schema = c.schema
  value : b.value.Restates c.value

/-- Tasks for restated values. -/
abbrev RestatesTask : Task Target → Task Target → Prop := Task.Rel RestatesBranch

theorem restates_check {a b : Bool} (h : a = b) (tokens : List String) :
    RestatesTask (.check a tokens) (.check b tokens) := h ▸ .check a tokens

theorem restates_branch (here : Target) (tokens : List String) (token : Option String)
    {v w : Value} (h : v.Restates w) :
    RestatesBranch (branch here tokens token v) (branch here tokens token w) := ⟨rfl, rfl, h⟩

/-- Restated members: what is found under a name is restated. -/
def RestatesMembers (members members' : Members Value) : Prop :=
  ∀ name, Option.Rel Restates (members.get? name) (members'.get? name)

variable {here : Target} {members members' : Members Value} {v w : Value}

theorem restatesMembers_of_object (h : Restates (.object members) (.object members')) :
    RestatesMembers members members' := by
  obtain ⟨ns, hns, hdistinct, hmembers⟩ := h.members
  cases hns
  exact rel_get? hmembers hdistinct

/-! ## Values of keywords -/

theorem asCount_restates (h : v.Restates w) : Compile.asCount v = Compile.asCount w := by
  cases h.alike with
  | number hn =>
      unfold Compile.asCount
      dsimp only
      rw [hn.toCount?]
  | _ => rfl

theorem asBool_restates (h : v.Restates w) : Compile.asBool v = Compile.asBool w := by
  cases h.alike <;> rfl

theorem asString_restates (h : v.Restates w) : Compile.asString v = Compile.asString w := by
  cases h.alike <;> rfl

theorem asTypeName_restates (h : v.Restates w) : Compile.asTypeName v = Compile.asTypeName w := by
  cases h.alike <;> rfl

theorem mapM_congr {α : Type} {f : Value → Except Flaw α} {as bs : List Value}
    (h : List.Forall₂ Restates as bs) (hf : ∀ {a b}, Restates a b → f a = f b) :
    as.mapM f = bs.mapM f := by
  induction h with
  | nil => rfl
  | cons hab _ ih => rw [List.mapM_cons, List.mapM_cons, hf hab, ih]

theorem asStrings_restates (h : v.Restates w) : Compile.asStrings v = Compile.asStrings w := by
  cases v with
  | array as =>
      obtain ⟨bs, rfl, hitems⟩ := h.elements
      refine mapM_congr hitems fun hab => ?_
      cases hab.alike <;> rfl
  | _ =>
      cases h.alike
      rfl

theorem asTypes_restates (h : v.Restates w) : Compile.asTypes v = Compile.asTypes w := by
  cases v with
  | array as =>
      obtain ⟨bs, rfl, hitems⟩ := h.elements
      exact mapM_congr hitems asTypeName_restates
  | _ =>
      cases h.alike
      rfl

theorem asReference_restates (base : BaseUri) (h : v.Restates w) :
    Compile.asReference base v = Compile.asReference base w := by
  unfold Compile.asReference
  rw [asString_restates h]

theorem given_restates {α : Type} {read : Value → Except Flaw α}
    (hm : RestatesMembers members members') (hread : ∀ {v w}, Restates v w → read v = read w)
    (keyword : String) : given members keyword read = given members' keyword read := by
  unfold given
  have hget := hm keyword
  generalize members.get? keyword = o, members'.get? keyword = o' at hget
  cases hget with
  | none => rfl
  | some hvw => exact congrArg Except.toOption (hread hvw)

/-- Numbers are read with the same units. -/
def ReadsUnits (read : Value → Except Flaw Double) : Prop :=
  ∀ {v w}, Restates v w →
    Option.Rel (fun x y => x.units = y.units) (read v).toOption (read w).toOption

theorem asDouble_readsUnits : ReadsUnits Compile.asDouble := by
  intro v w h
  cases h.alike with
  | number hn => exact .some hn.units
  | _ => exact .none

theorem asPositive_readsUnits : ReadsUnits Compile.asPositive := by
  intro v w h
  cases h.alike with
  | @number m n hn =>
      have hunits := hn.units
      show Option.Rel _
        (if 0 < m.toDouble.units then Except.ok m.toDouble else .error Flaw.notPositive).toOption
        (if 0 < n.toDouble.units then Except.ok n.toDouble else .error Flaw.notPositive).toOption
      rw [hunits]
      split
      · exact .some hunits
      · exact .none
  | _ => exact .none

/-- A condition on the number of a keyword that only looks at its units. -/
theorem any_restates {read : Value → Except Flaw Double} (hread : ReadsUnits read)
    (hm : RestatesMembers members members') (keyword : String) {f g : Double → Bool}
    (hfg : ∀ x y : Double, x.units = y.units → f x = g y) :
    (given members keyword read).any f = (given members' keyword read).any g := by
  unfold given
  have hget := hm keyword
  generalize members.get? keyword = o, members'.get? keyword = o' at hget
  cases hget with
  | none => rfl
  | @some v w hvw =>
      have hunits := hread hvw
      rw [Option.bind_some, Option.bind_some]
      generalize (read v).toOption = x, (read w).toOption = y at hunits
      cases hunits with
      | none => rfl
      | some hxy => exact hfg _ _ hxy

/-! ## Keywords that combine schemas -/

/-- The condition of `const`. -/
theorem const_restates (hm : RestatesMembers members members') (h : v.Restates w) :
    ((members.get? "const").any fun c => !c.same v) =
      (members'.get? "const").any fun c => !c.same w := by
  have hget := hm "const"
  generalize members.get? "const" = o, members'.get? "const" = o' at hget
  cases hget with
  | none => rfl
  | some hc => exact congrArg not (hc.alike.same_congr h.alike h.distinct)

/-- The condition of `enum`. -/
theorem enum_restates (hm : RestatesMembers members members') (h : v.Restates w) :
    ((given members "enum" Compile.asArray).any fun values => !values.any fun c => c.same v) =
      (given members' "enum" Compile.asArray).any fun values =>
        !values.any fun c => c.same w := by
  unfold given
  have hget := hm "enum"
  generalize members.get? "enum" = o, members'.get? "enum" = o' at hget
  cases hget with
  | none => rfl
  | @some c c' hc =>
      cases c with
      | array values =>
          obtain ⟨values', rfl, hvalues⟩ := hc.elements
          exact congrArg not ((Shuffled.of_forall₂ hvalues).any_eq fun c c' hc =>
            hc.alike.same_congr h.alike h.distinct)
      | _ =>
          cases hc.alike
          rfl

/-- The condition of `type`. -/
theorem type_restates (hm : RestatesMembers members members') (h : v.Restates w) :
    ((given members "type" Compile.asTypes).any fun types => !types.any fun t => t.accepts v) =
      (given members' "type" Compile.asTypes).any fun types =>
        !types.any fun t => t.accepts w := by
  rw [given_restates hm asTypes_restates]
  exact congrArg (fun f => Option.any (fun types : List TypeName => !types.any f) _)
    (funext fun t => accepts_alike h.alike t)

theorem branchOf?_restates (hm : RestatesMembers members members') (h : v.Restates w)
    (keyword : String) :
    Option.Rel RestatesBranch (branchOf? here members keyword v)
      (branchOf? here members' keyword w) := by
  unfold branchOf?
  have hget := hm keyword
  generalize members.get? keyword = o, members'.get? keyword = o' at hget
  cases hget with
  | none => exact .none
  | some _ => exact .some (restates_branch here [keyword] none h)

theorem listBranches_restates {as bs : List Value} (hs : List.Forall₂ Restates as bs)
    (h : v.Restates w) (keyword : String) :
    List.Forall₂ RestatesBranch (listBranches here keyword as v)
      (listBranches here keyword bs w) := by
  refine List.rel_map (fun p q hpq => ?_) (forall₂_numbered hs 0)
  dsimp only
  rw [hpq.2]
  exact restates_branch here _ none h

theorem negatedTasks_restates (hm : RestatesMembers members members') (h : v.Restates w) :
    Shuffled RestatesTask (negatedTasks here members v) (negatedTasks here members' w) := by
  unfold negatedTasks
  have hbranch : Option.Rel RestatesBranch (branchOf? here members "not" v)
      (branchOf? here members' "not" w) := branchOf?_restates hm h "not"
  generalize branchOf? here members "not" v = o, branchOf? here members' "not" w = o' at hbranch
  cases hbranch with
  | none => exact .nil
  | some hb => exact .singleton (.refute _ hb)

theorem conditionalTasks_restates (hm : RestatesMembers members members') (h : v.Restates w) :
    Shuffled RestatesTask (conditionalTasks here members v) (conditionalTasks here members' w) := by
  unfold conditionalTasks
  have hbranch : Option.Rel RestatesBranch (branchOf? here members "if" v)
      (branchOf? here members' "if" w) := branchOf?_restates hm h "if"
  generalize branchOf? here members "if" v = o, branchOf? here members' "if" w = o' at hbranch
  cases hbranch with
  | none => exact .nil
  | some hb =>
      have hthen : Option.Rel RestatesBranch (branchOf? here members "then" v)
          (branchOf? here members' "then" w) := branchOf?_restates hm h "then"
      have helse : Option.Rel RestatesBranch (branchOf? here members "else" v)
          (branchOf? here members' "else" w) := branchOf?_restates hm h "else"
      exact .singleton (.choose hb hthen helse)

/-- The tasks of a keyword that takes a list. -/
theorem listed_restates (hm : RestatesMembers members members') (keyword : String)
    {f g : List Value → List (Task Target)}
    (hf : ∀ as bs, List.Forall₂ Restates as bs → Shuffled RestatesTask (f as) (g bs)) :
    Shuffled RestatesTask
      (match members.get? keyword with
        | some (.array schemas) => f schemas
        | _ => [])
      (match members'.get? keyword with
        | some (.array schemas) => g schemas
        | _ => []) := by
  have hget := hm keyword
  generalize members.get? keyword = o, members'.get? keyword = o' at hget
  cases hget with
  | none => exact .nil
  | @some c c' hc =>
      cases c with
      | array as =>
          obtain ⟨bs, rfl, hs⟩ := hc.elements
          exact hf as bs hs
      | _ =>
          cases hc.alike
          exact .nil

theorem listTasks_restates (hm : RestatesMembers members members') (h : v.Restates w) :
    Shuffled RestatesTask (listTasks here members v) (listTasks here members' w) := by
  unfold listTasks
  refine Shuffled.append (Shuffled.append ?_ ?_) ?_
  · refine listed_restates hm "allOf" fun as bs hs => ?_
    exact (Shuffled.of_forall₂ (listBranches_restates hs h "allOf")).map fun _ _ hb => .descend hb
  · exact listed_restates hm "anyOf" fun as bs hs =>
      .singleton (.some _ (listBranches_restates hs h "anyOf"))
  · exact listed_restates hm "oneOf" fun as bs hs =>
      .singleton (.one _ (listBranches_restates hs h "oneOf"))

/-! ## Numbers and strings -/

theorem numberTasks_restates (hm : RestatesMembers members members') {m n : Number}
    (h : m.Alike n) :
    Shuffled RestatesTask ((numberRules members).tasks m) ((numberRules members').tasks n) := by
  have hunits := h.units
  have hdouble := @asDouble_readsUnits
  refine .of_forall₂ (.cons (restates_check ?_ _) (.cons (restates_check ?_ _)
    (.cons (restates_check ?_ _) (.cons (restates_check ?_ _) (.cons (restates_check ?_ _) .nil)))))
  · refine any_restates asPositive_readsUnits hm "multipleOf" fun x y hxy => ?_
    unfold Eval.missesMultiple
    rw [hunits, hxy]
  · refine any_restates hdouble hm "maximum" fun x y hxy => ?_
    rw [hunits, hxy]
  · refine any_restates hdouble hm "minimum" fun x y hxy => ?_
    rw [hunits, hxy]
  · refine any_restates hdouble hm "exclusiveMaximum" fun x y hxy => ?_
    rw [hunits, hxy]
  · refine any_restates hdouble hm "exclusiveMinimum" fun x y hxy => ?_
    rw [hunits, hxy]

theorem stringRules_restates (hm : RestatesMembers members members') :
    stringRules members = stringRules members' := by
  unfold stringRules
  rw [given_restates hm asCount_restates, given_restates hm asCount_restates,
    given_restates hm fun {v w} h => by rw [asString_restates h]]

theorem stringTasks_restates (hm : RestatesMembers members members') (s : String) :
    Shuffled RestatesTask ((stringRules members).tasks s) ((stringRules members').tasks s) := by
  rw [stringRules_restates hm]
  exact .of_forall₂ (.cons (.check _ _) (.cons (.check _ _) (.cons (.check _ _) .nil)))

/-! ## Arrays -/

/-- The branch of a keyword that may be absent. -/
theorem toList_restates (hm : RestatesMembers members members') (keyword : String)
    {b c : Branch Target} (hbc : RestatesBranch b c) :
    Shuffled RestatesBranch ((members.get? keyword).toList.map fun _ => b)
      ((members'.get? keyword).toList.map fun _ => c) := by
  have hget := hm keyword
  generalize members.get? keyword = o, members'.get? keyword = o' at hget
  cases hget with
  | none => exact .nil
  | some _ => exact .singleton hbc

/-- Each element is put to the same schema, at its own place. -/
theorem numbered_restates {as bs : List Value} (h : List.Forall₂ Restates as bs)
    (tokens : List String) :
    List.Forall₂ RestatesBranch
      (as.zipIdx.map fun (v, i) => branch here tokens (some (toString i)) v)
      (bs.zipIdx.map fun (v, i) => branch here tokens (some (toString i)) v) := by
  refine List.rel_map (fun p q hpq => ?_) (forall₂_numbered h 0)
  dsimp only
  rw [hpq.2]
  exact restates_branch here tokens _ hpq.1

theorem elementBranches_restates (hm : RestatesMembers members members') {as bs : List Value}
    (h : List.Forall₂ Restates as bs) :
    Shuffled RestatesBranch (elementBranches here members as)
      (elementBranches here members' bs) := by
  unfold elementBranches
  have hget := hm "items"
  generalize members.get? "items" = o, members'.get? "items" = o' at hget
  cases hget with
  | none => exact .nil
  | @some c c' hc =>
      cases c with
      | array schemas =>
          obtain ⟨schemas', rfl, hs⟩ := hc.elements
          refine Shuffled.append (.of_forall₂ (List.rel_map (fun p q hpq => ?_)
            (forall₂_numbered (forall₂_zip hs h) 0))) ?_
          · dsimp only
            rw [hpq.2]
            exact restates_branch here _ _ hpq.1.2
          · -- the elements beyond the schemas
            rw [hs.length_eq]
            refine Shuffled.flatMap (.of_forall₂ (List.forall₂_drop _ (forall₂_numbered h 0)))
              fun p q hpq => toList_restates hm "additionalItems" ?_
            rw [hpq.2]
            exact restates_branch here _ _ hpq.1
      | _ =>
          cases hc.alike
          exact .of_forall₂ (numbered_restates h ["items"])

theorem arrayTasks_restates (hm : RestatesMembers members members') {as bs : List Value}
    (h : List.Forall₂ Restates as bs) :
    Shuffled RestatesTask (arrayTasks here members as) (arrayTasks here members' bs) := by
  have hdistinct : ∀ a ∈ as, a.Distinct := fun a ha => by
    obtain ⟨b, _, hab⟩ := (Shuffled.of_forall₂ h).exists_right ha
    exact hab.distinct
  have hduplicate := hasDuplicate_alike (h.imp fun _ _ hab => hab.alike) hdistinct
  unfold arrayTasks
  rw [given_restates hm asCount_restates, given_restates hm asCount_restates,
    given_restates hm asBool_restates, h.length_eq, hduplicate]
  refine Shuffled.append (Shuffled.append ?_ ?_) ?_
  · exact (elementBranches_restates hm h).map fun _ _ hb => .descend hb
  · exact .of_forall₂ (.cons (.check _ _) (.cons (.check _ _) (.cons (.check _ _) .nil)))
  · have hget := hm "contains"
    generalize members.get? "contains" = o, members'.get? "contains" = o' at hget
    cases hget with
    | none => exact .nil
    | some _ => exact .singleton (.some _ (numbered_restates h ["contains"]))

/-! ## Objects -/

theorem has_restates (hm : RestatesMembers members members') (name : String) :
    members.has name = members'.has name := by
  unfold Members.has
  have hget := hm name
  generalize members.get? name = o, members'.get? name = o' at hget
  cases hget <;> rfl

/-- The members of a keyword that takes an object. -/
theorem entries_restates (hm : RestatesMembers members members') (keyword : String) :
    RestatesMembers (entries members keyword) (entries members' keyword) ∧
      Shuffled RestatesMember (entries members keyword) (entries members' keyword) := by
  unfold entries
  have hget := hm keyword
  generalize members.get? keyword = o, members'.get? keyword = o' at hget
  cases hget with
  | none => exact ⟨fun _ => .none, .nil⟩
  | @some c c' hc =>
      cases c with
      | object ms =>
          obtain ⟨ns, rfl, _, hmembers⟩ := hc.members
          exact ⟨restatesMembers_of_object hc, hmembers⟩
      | _ =>
          cases hc.alike
          exact ⟨fun _ => .none, .nil⟩

theorem matching_restates (hm : RestatesMembers members members') (name : String) :
    Shuffled RestatesMember (matching members name) (matching members' name) := by
  refine (entries_restates hm "patternProperties").2.filter fun (name, _) (name', _) hpq => ?_
  obtain ⟨hname, _⟩ := hpq
  exact congrArg (fun text => (Pattern.ofText? text).any _) hname

theorem memberBranches_restates (hm : RestatesMembers members members') (name : String)
    (h : v.Restates w) :
    Shuffled RestatesBranch (memberBranches here members name v)
      (memberBranches here members' name w) := by
  have hmatching := matching_restates hm name
  unfold memberBranches
  dsimp only
  rw [has_restates (entries_restates hm "properties").1, hmatching.isEmpty_eq]
  refine Shuffled.append (Shuffled.append ?_ ?_) ?_
  · split
    · exact .singleton (restates_branch here _ _ h)
    · exact .nil
  · refine hmatching.map fun p q hpq => ?_
    rw [hpq.1]
    exact restates_branch here _ _ h
  · split
    · exact toList_restates hm "additionalProperties" (restates_branch here _ _ h)
    · exact .nil

theorem requireTasks_restates {object object' : Members Value}
    (hobject : RestatesMembers object object') (tokens names : List String) :
    Shuffled RestatesTask (requireTasks object tokens names)
      (requireTasks object' tokens names) := by
  unfold requireTasks
  refine .of_forall₂ (List.rel_map (fun p q hpq => ?_) (List.forall₂_same.mpr fun _ _ => rfl))
  subst hpq
  exact restates_check (congrArg not (has_restates hobject p.1)) _

theorem dependencyTasks_restates {object object' : Members Value}
    (hobject : Restates (.object object) (.object object')) (name : String) (h : v.Restates w) :
    Shuffled RestatesTask (dependencyTasks here object name v)
      (dependencyTasks here object' name w) := by
  have hmembers := restatesMembers_of_object hobject
  unfold dependencyTasks
  rw [has_restates hmembers]
  split
  · cases v with
    | array as =>
        have hstrings := asStrings_restates h
        obtain ⟨bs, rfl, _⟩ := h.elements
        dsimp only
        rw [hstrings]
        exact requireTasks_restates hmembers _ _
    | _ =>
        cases h.alike
        exact .singleton (.descend (restates_branch here _ none hobject))
  · exact .nil

theorem objectTasks_restates (hm : RestatesMembers members members')
    {object object' : Members Value} (hobject : Restates (.object object) (.object object')) :
    Shuffled RestatesTask (objectTasks here members object)
      (objectTasks here members' object') := by
  obtain ⟨_, heq, _, hshuffled⟩ := hobject.members
  cases heq
  unfold objectTasks
  rw [given_restates hm asCount_restates, given_restates hm asCount_restates,
    given_restates hm asStrings_restates, hshuffled.length_eq]
  refine Shuffled.append (Shuffled.append (Shuffled.append (Shuffled.append ?_ ?_) ?_) ?_) ?_
  · exact .of_forall₂ (.cons (.check _ _) (.cons (.check _ _) .nil))
  · exact requireTasks_restates (restatesMembers_of_object hobject) _ _
  · refine hshuffled.flatMap fun (name, a) (name', b) hpq => ?_
    obtain ⟨rfl, hab⟩ : name = name' ∧ a.Restates b := hpq
    exact (memberBranches_restates hm name hab).map fun _ _ hb => .descend hb
  · refine (entries_restates hm "dependencies").2.flatMap fun (name, a) (name', b) hpq => ?_
    obtain ⟨rfl, hab⟩ : name = name' ∧ a.Restates b := hpq
    exact dependencyTasks_restates hobject name hab
  · have hget := hm "propertyNames"
    generalize members.get? "propertyNames" = o, members'.get? "propertyNames" = o' at hget
    cases hget with
    | none => exact .nil
    | some _ =>
        refine hshuffled.map fun p q hpq => ?_
        dsimp only
        rw [hpq.1]
        exact .descend (restates_branch here _ _ ⟨.string _, trivial⟩)

/-! ## All keywords -/

/-- **A restated schema has the same tasks for a restated value**, in some order. -/
theorem ownTasks_restates (hm : RestatesMembers members members') (h : v.Restates w) :
    Shuffled RestatesTask (ownTasks here members v) (ownTasks here members' w) := by
  unfold ownTasks
  refine Shuffled.append (Shuffled.append (Shuffled.append (Shuffled.append (Shuffled.append
    (negatedTasks_restates hm h) (conditionalTasks_restates hm h)) ?_)
    (listTasks_restates hm h)) ?_) ?_
  · exact .of_forall₂ (.cons (restates_check (const_restates hm h) _)
      (.cons (restates_check (enum_restates hm h) _) .nil))
  · exact .singleton (restates_check (type_restates hm h) _)
  · unfold shapedTasks
    cases v with
    | array as =>
        obtain ⟨bs, rfl, hitems⟩ := h.elements
        exact arrayTasks_restates hm hitems
    | object object =>
        obtain ⟨object', rfl, _⟩ := h.members
        exact objectTasks_restates hm h
    | number m =>
        cases h.alike with
        | number hn => exact numberTasks_restates hm hn
    | string s =>
        cases h.alike
        exact stringTasks_restates hm s
    | _ =>
        cases h.alike
        exact .nil

end JsonSchema.Direct
