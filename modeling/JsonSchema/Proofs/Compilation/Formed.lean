import JsonSchema.Proofs.Compilation.Compiling
import JsonSchema.Proofs.Direct.Inside
import JsonSchema.Proofs.Number.Whole

/-!
# Well-formed schemas

`grammar` lists the keywords whose values must have some form, in the order in which they are read.
A schema is well-formed if it is a truth value, or an object whose keywords have their forms. The
schemas inside it are not looked at here: they stand at places of their own, where they must be
well-formed in turn.

Reading the keywords of a schema ends exactly if they have their forms. So a schema is compiled
without an error if it is well-formed and everything inside it is.
-/

namespace JsonSchema

/-! ## Forms -/

namespace Value

def isText : Value → Bool
  | .string _ => true
  | _ => false

def isBool : Value → Bool
  | .bool _ => true
  | _ => false

def isNumber : Value → Bool
  | .number _ => true
  | _ => false

def isPositive : Value → Bool
  | .number n => 0 < n.toDouble.units
  | _ => false

def isCount : Value → Bool
  | .number n => decide n.IsCount
  | _ => false

/-- An array whose elements have a form. -/
def isListOf (form : Value → Bool) : Value → Bool
  | .array items => items.all form
  | _ => false

/-- An array with one element at least. -/
def isNonempty : Value → Bool
  | .array items => !items.isEmpty
  | _ => false

/-- An object whose members have a form. -/
def isObjectOf (form : String → Value → Bool) : Value → Bool
  | .object members => members.all fun (name, v) => form name v
  | _ => false

/-- The shape of a schema. -/
def isSchema : Value → Bool
  | .bool _ => true
  | .object _ => true
  | _ => false

def isPattern : Value → Bool
  | .string text => (Pattern.ofText? text).isSome
  | _ => false

def isTypeName : Value → Bool
  | .string name => (TypeName.ofText? name).isSome
  | _ => false

/-- One type name or an array of them. -/
def isTypes (v : Value) : Bool := v.isTypeName || v.isListOf isTypeName

/-- A text that leads somewhere from a document with the given base. -/
def isReference (base : BaseUri) : Value → Bool
  | .string text => (base.resolve text).isOk
  | _ => false

/-- One schema or an array of them. -/
def isItems (v : Value) : Bool := v.isListOf (fun _ => true) || v.isSchema

/-- A schema or an array of names. -/
def isDependency (v : Value) : Bool := v.isListOf isText || v.isSchema

end Value

open Value

/-- The keywords whose values must have some form, besides those that take one schema. -/
def grammar (base : BaseUri) : List (String × (Value → Bool)) :=
  [("$ref", isReference base), ("type", isTypes), ("enum", isListOf fun _ => true),
    ("allOf", isNonempty), ("anyOf", isNonempty), ("oneOf", isNonempty),
    ("multipleOf", isPositive), ("maximum", isNumber), ("minimum", isNumber),
    ("exclusiveMaximum", isNumber), ("exclusiveMinimum", isNumber),
    ("maxLength", isCount), ("minLength", isCount), ("pattern", isPattern),
    ("items", isItems), ("maxItems", isCount), ("minItems", isCount), ("uniqueItems", isBool),
    ("maxProperties", isCount), ("minProperties", isCount), ("required", isListOf isText),
    ("properties", isObjectOf fun _ _ => true),
    ("patternProperties", isObjectOf fun text _ => (Pattern.ofText? text).isSome),
    ("dependencies", isObjectOf fun _ => isDependency)]

/-- The schema is well-formed, whatever is inside it. -/
def Value.formed (base : BaseUri) : Value → Bool
  | .bool _ => true
  | .object members =>
    (grammar base).all fun (keyword, form) => (Members.get? members keyword).all form
  | _ => false

theorem Value.formed_object {base : BaseUri} {members : Members Value} :
    (Value.object members).formed base = true ↔
      ∀ p ∈ grammar base, (members.get? p.1).all p.2 = true := by
  rw [formed, List.all_eq_true]

namespace Compile

open Reading Direct

variable {α : Type} {here : Target} {members : Members Value}

/-! ## Reading values of some form -/

/-- Reading succeeds exactly for the values of a form. -/
def Recognizes (form : Value → Bool) (read : Value → Except Flaw α) : Prop :=
  ∀ v, (read v).isOk = form v

theorem isOk_bind {β ε : Type} {r : Except ε α} {f : α → Except ε β} {c : Bool}
    (h : ∀ a, (f a).isOk = c) : (r >>= f).isOk = (r.isOk && c) := by
  cases r with
  | ok a => exact h a
  | error e => rfl

theorem isOk_map {β ε : Type} {r : Except ε α} (f : α → β) :
    (r >>= fun a => pure (f a)).isOk = r.isOk := by
  cases r <;> rfl

/-- Reading all elements succeeds if reading each does. -/
theorem isOk_mapM {γ ε : Type} (f : γ → Except ε α) (cs : List γ) :
    (cs.mapM f).isOk = cs.all fun c => (f c).isOk := by
  induction cs with
  | nil => rfl
  | cons c rest ih =>
      rw [List.mapM_cons, List.all_cons, ← ih]
      cases f c with
      | error e => rfl
      | ok a => cases rest.mapM f <;> rfl

theorem recognizes_array : Recognizes (isListOf fun _ => true) asArray := by
  intro v
  cases v with
  | array items => exact (List.all_eq_true.mpr fun _ _ => rfl).symm
  | _ => rfl

theorem recognizes_bool : Recognizes isBool asBool := by
  intro v
  cases v <;> rfl

theorem recognizes_double : Recognizes isNumber asDouble := by
  intro v
  cases v <;> rfl

theorem recognizes_positive : Recognizes isPositive asPositive := by
  intro v
  cases v with
  | number n =>
      show Except.isOk (if 0 < n.toDouble.units then _ else _) = decide (0 < n.toDouble.units)
      by_cases h : 0 < n.toDouble.units
      · rw [if_pos h, decide_eq_true h]
        rfl
      · rw [if_neg h, decide_eq_false h]
        rfl
  | _ => rfl

theorem recognizes_count : Recognizes isCount asCount := by
  intro v
  cases v with
  | number n =>
      have hcount : n.toCount?.isSome = decide n.IsCount := by
        rw [Bool.eq_iff_iff, decide_eq_true_iff]
        exact n.isSome_toCount?
      show _ = decide n.IsCount
      rw [← hcount]
      unfold asCount
      dsimp only
      cases n.toCount? <;> rfl
  | _ => rfl

theorem recognizes_strings : Recognizes (isListOf isText) asStrings := by
  intro v
  cases v with
  | array items =>
      show Except.isOk (items.mapM _) = items.all isText
      rw [isOk_mapM]
      refine congrArg _ (funext fun w => ?_)
      cases w <;> rfl
  | _ => rfl

theorem isOk_asPattern (text : String) : (asPattern text).isOk = (Pattern.ofText? text).isSome := by
  unfold asPattern
  cases Pattern.ofText? text <;> rfl

theorem recognizes_pattern : Recognizes isPattern fun v => asString v >>= asPattern := by
  intro v
  cases v with
  | string text => exact isOk_asPattern text
  | _ => rfl

theorem recognizes_typeName : Recognizes isTypeName asTypeName := by
  intro v
  cases v with
  | string name =>
      unfold asTypeName isTypeName
      dsimp only
      cases TypeName.ofText? name <;> rfl
  | _ => rfl

theorem recognizes_types : Recognizes isTypes asTypes := by
  intro v
  cases v with
  | array names =>
      show (names.mapM asTypeName).isOk = (false || names.all isTypeName)
      rw [isOk_mapM, Bool.false_or]
      exact congrArg _ (funext recognizes_typeName)
  | string name =>
      have hname := recognizes_typeName (.string name)
      rw [isTypes, ← hname]
      show ((asTypeName (.string name)).map _).isOk = _
      cases asTypeName (.string name) <;> rfl
  | _ => rfl

theorem recognizes_reference (base : BaseUri) :
    Recognizes (isReference base) (asReference base) := by
  intro v
  cases v with
  | string text =>
      unfold asReference isReference
      dsimp only [asString, Bind.bind, Except.bind]
      cases base.resolve text <;> rfl
  | _ => rfl

/-! ## Reading keywords -/

theorem optional_isOk (here : Target) {keyword : String} {form : Value → Bool}
    {read : Value → Except Flaw α} (h : Recognizes form read) :
    (optional members keyword read here).isOk = (members.get? keyword).all form := by
  unfold optional
  cases members.get? keyword with
  | none => rfl
  | some v =>
      dsimp only
      rw [Option.all_some, ← h v]
      cases read v <;> rfl

theorem optional_endsIff {keyword : String} {form : Value → Bool} {read : Value → Except Flaw α}
    (h : Recognizes form read) :
    (liftM (optional members keyword read here) : Reading (Option α)).EndsIff
      ((members.get? keyword).all form = true) := by
  rw [← optional_isOk here h]
  exact endsIff_lift _

theorem numberRules_isOk : (numberRules here members).isOk =
    ((members.get? "multipleOf").all isPositive && ((members.get? "maximum").all isNumber &&
      ((members.get? "minimum").all isNumber && ((members.get? "exclusiveMaximum").all isNumber &&
        (members.get? "exclusiveMinimum").all isNumber)))) := by
  unfold numberRules
  rw [← optional_isOk here recognizes_positive]
  iterate 4 rw [← optional_isOk here recognizes_double]
  refine isOk_bind fun _ => isOk_bind fun _ => isOk_bind fun _ => isOk_bind fun _ => ?_
  exact isOk_map _

theorem stringRules_isOk : (stringRules here members).isOk =
    ((members.get? "maxLength").all isCount && ((members.get? "minLength").all isCount &&
      (members.get? "pattern").all isPattern)) := by
  unfold stringRules
  iterate 2 rw [← optional_isOk here recognizes_count]
  rw [← optional_isOk here recognizes_pattern]
  refine isOk_bind fun _ => isOk_bind fun _ => ?_
  exact isOk_map _

theorem schemaOf_endsIff (keyword : String) : (schemaOf here members keyword).EndsIff True := by
  unfold schemaOf
  cases members.get? keyword with
  | none => exact endsIff_pure none
  | some v => exact (endsIff_sub _ v).map some

theorem schemasAt_endsIff (schemas : List Value) : (schemasAt here schemas).EndsIff True := by
  have hall := endsIff_mapM (fun p : Value × Nat => endsIff_sub (here.below [toString p.2]) p.1)
    schemas.zipIdx
  exact hall.congr (iff_true_intro fun _ _ => trivial)

theorem schemasOf_endsIff (keyword : String) :
    (schemasOf here members keyword).EndsIff ((members.get? keyword).all isNonempty = true) := by
  unfold schemasOf
  cases members.get? keyword with
  | none => exact rfl
  | some v =>
      cases v with
      | array schemas =>
          cases schemas with
          | nil => exact Bool.false_ne_true
          | cons v rest =>
              have hends : (schemasAt (here.below [keyword]) (v :: rest)).EndsIff True :=
                schemasAt_endsIff _
              exact (hends.map some).congr (iff_of_true trivial rfl)
      | _ => exact Bool.false_ne_true

theorem itemsOf_endsIff :
    (itemsOf here members).EndsIff ((members.get? "items").all isItems = true) := by
  unfold itemsOf
  cases members.get? "items" with
  | none => exact rfl
  | some v =>
      cases v with
      | array schemas =>
          refine ((schemasAt_endsIff schemas).map _).congr (iff_of_true trivial ?_)
          show (schemas.all (fun _ => true) || _) = true
          rw [List.all_eq_true.mpr fun _ _ => rfl, Bool.true_or]
      | object m => exact fun _ => rfl
      | bool b => exact fun _ => rfl
      | _ => exact Bool.false_ne_true

theorem propertyAt_endsIff (name : String) (v : Value) : (propertyAt here name v).EndsIff True :=
  (endsIff_sub _ v).map (name, ·)

theorem patternPropertyAt_endsIff (text : String) (v : Value) :
    (patternPropertyAt here text v).EndsIff ((Pattern.ofText? text).isSome = true) := by
  unfold patternPropertyAt
  rw [← isOk_asPattern]
  cases asPattern text with
  | error flaw => exact Bool.false_ne_true
  | ok pattern => exact fun _ => rfl

theorem dependencyAt_endsIff (name : String) (v : Value) :
    (dependencyAt here name v).EndsIff (v.isDependency = true) := by
  unfold dependencyAt isDependency
  cases v with
  | array names =>
      have hschema : (Value.array names).isSchema = false := rfl
      rw [← recognizes_strings, hschema, Bool.or_false]
      dsimp only
      cases asStrings (.array names) with
      | error flaw => exact Bool.false_ne_true
      | ok names => exact rfl
  | object m => exact fun _ => rfl
  | bool b => exact fun _ => rfl
  | _ => exact Bool.false_ne_true

theorem eachMember_endsIff {entry : String → Value → Reading α} {form : String → Value → Bool}
    (keyword : String) (h : ∀ name v, (entry name v).EndsIff (form name v = true)) :
    (eachMember entry here members keyword).EndsIff
      ((members.get? keyword).all (isObjectOf form) = true) := by
  unfold eachMember membersOf
  cases members.get? keyword with
  | none => exact rfl
  | some v =>
      cases v with
      | object m =>
          refine ((endsIff_mapM (fun p => h p.1 p.2) m).map some).congr ?_
          exact List.all_eq_true.symm
      | _ => exact Bool.false_ne_true

theorem combinators_endsIff : (combinators here members).EndsIff
    ((members.get? "allOf").all isNonempty = true ∧ (members.get? "anyOf").all isNonempty = true ∧
      (members.get? "oneOf").all isNonempty = true) := by
  unfold combinators
  refine EndsIff.congr ((schemaOf_endsIff "not").bind fun _ => (schemaOf_endsIff "if").bind fun _ =>
    (schemaOf_endsIff "then").bind fun _ => (schemaOf_endsIff "else").bind fun _ =>
    (schemasOf_endsIff "allOf").bind fun _ => (schemasOf_endsIff "anyOf").bind fun _ =>
    (schemasOf_endsIff "oneOf").map _) ?_
  simp only [true_and]

theorem arrayRules_endsIff : (arrayRules here members).EndsIff
    ((members.get? "items").all isItems = true ∧ (members.get? "maxItems").all isCount = true ∧
      (members.get? "minItems").all isCount = true ∧
        (members.get? "uniqueItems").all isBool = true) := by
  unfold arrayRules
  refine EndsIff.congr (itemsOf_endsIff.bind fun _ =>
    (schemaOf_endsIff "additionalItems").bind fun _ =>
    (optional_endsIff recognizes_count).bind fun _ =>
    (optional_endsIff recognizes_count).bind fun _ =>
    (optional_endsIff recognizes_bool).bind fun _ => (schemaOf_endsIff "contains").map _) ?_
  simp only [true_and, and_true]

theorem objectRules_endsIff : (objectRules here members).EndsIff
    ((members.get? "maxProperties").all isCount = true ∧
      (members.get? "minProperties").all isCount = true ∧
      (members.get? "required").all (isListOf isText) = true ∧
      (members.get? "properties").all (isObjectOf fun _ _ => true) = true ∧
      (members.get? "patternProperties").all
        (isObjectOf fun text _ => (Pattern.ofText? text).isSome) = true ∧
      (members.get? "dependencies").all (isObjectOf fun _ => isDependency) = true) := by
  unfold objectRules
  refine EndsIff.congr ((optional_endsIff recognizes_count).bind fun _ =>
    (optional_endsIff recognizes_count).bind fun _ =>
    (optional_endsIff recognizes_strings).bind fun _ =>
    (eachMember_endsIff "properties" fun name v =>
      (propertyAt_endsIff name v).congr (iff_of_true trivial rfl)).bind fun _ =>
    (eachMember_endsIff "patternProperties" patternPropertyAt_endsIff).bind fun _ =>
    (schemaOf_endsIff "additionalProperties").bind fun _ =>
    (eachMember_endsIff "dependencies" dependencyAt_endsIff).bind fun _ =>
    (schemaOf_endsIff "propertyNames").map _) ?_
  simp only [true_and, and_true]

/-- **Reading the keywords of a schema ends exactly if they have their forms.** -/
theorem keywords_endsIff : (keywords here members).EndsIff
    ((Value.object members).formed here.base = true) := by
  unfold keywords
  refine EndsIff.congr ((optional_endsIff (recognizes_reference here.base)).bind fun _ =>
    (optional_endsIff recognizes_types).bind fun _ =>
    (optional_endsIff recognizes_array).bind fun _ => combinators_endsIff.bind fun _ =>
    (endsIff_lift _).bind fun _ => (endsIff_lift _).bind fun _ => arrayRules_endsIff.bind fun _ =>
    objectRules_endsIff.map _) ?_
  rw [numberRules_isOk, stringRules_isOk, formed_object]
  simp only [grammar, List.forall_mem_cons, List.not_mem_nil, false_imp_iff, implies_true, and_true,
    Bool.and_eq_true, and_assoc]

/-! ## Compiling -/

/-- Whatever the registry, the computation succeeds. -/
def Succeeds (m : Compile α) : Prop := ∀ r, ∃ a r', m.run r = (.ok a, r')

theorem Succeeds.bind {β : Type} {m : Compile α} {f : α → Compile β} (hm : Succeeds m)
    (hf : ∀ a, Succeeds (f a)) : Succeeds (m >>= f) := by
  intro r
  obtain ⟨a, r', ha⟩ := hm r
  rw [run_bind, ha]
  exact hf a r'

theorem succeeds_pure (a : α) : Succeeds (pure a : Compile α) := fun r => ⟨a, r, rfl⟩

theorem succeeds_register (node : Node) : Succeeds (register node) :=
  fun r => ⟨(r.add node).1, (r.add node).2, rfl⟩

theorem run_reading_succeeds {compile : Target → Value → Compile Nat} {m : Reading α}
    {l : List (Target × Value)} {P : Prop} (hl : m.Asks l) (hm : m.EndsIff P) (hp : P)
    (h : ∀ p ∈ l, Succeeds (compile p.1 p.2)) : Succeeds (m.run compile) := by
  induction m generalizing l with
  | done a => exact succeeds_pure a
  | failed e => exact absurd hp hm
  | needs place v next ih =>
      obtain ⟨rest, rfl, hrest⟩ := hl
      have hplace := h (place, v) List.mem_cons_self
      refine hplace.bind fun i => ih i (hrest i) (hm i) fun p hp => ?_
      exact h p (List.mem_cons_of_mem _ hp)

theorem schema_succeeds {compile : Target → Value → Compile Nat} {v : Value}
    (hv : v.formed here.base = true)
    (h : ∀ members, v = .object members →
      ∀ p ∈ Subschemas.under here (Subschemas.inside members), Succeeds (compile p.1 p.2)) :
    Succeeds (schema compile here v) := by
  cases v with
  | bool b => exact succeeds_register _
  | object members =>
      have hreading := run_reading_succeeds (keywords_asks here members) keywords_endsIff hv
        (h members rfl)
      exact hreading.bind fun k => succeeds_register _
  | _ => exact nomatch hv

/-- What holds of the compilation of a schema if it does for the schemas inside it, holds however
high the schema is. -/
theorem within_of_schema {stands : Target → Value → Prop} (hclosed : ClosedInside stands)
    {P : Compile Nat → Prop}
    (h : ∀ {compile : Target → Value → Compile Nat} {here : Target} {v : Value}, stands here v →
      (∀ members, v = .object members →
        ∀ p ∈ Subschemas.under here (Subschemas.inside members), P (compile p.1 p.2)) →
      P (schema compile here v))
    {height : Nat} {v : Value} (hv : stands here v) (hheight : v.height ≤ height) :
    P (within height here v) := by
  induction height generalizing here v with
  | zero =>
      refine h hv fun members hmembers p hp => ?_
      -- nothing is inside a value without height
      subst hmembers
      obtain ⟨q, hq, rfl⟩ := List.mem_map.mp hp
      have hlt := Subschemas.height_lt_of_mem_inside hq
      omega
  | succ height ih =>
      refine h hv fun members hmembers p hp => ?_
      subst hmembers
      have hinside := hclosed here members hv p hp
      obtain ⟨q, hq, rfl⟩ := List.mem_map.mp hp
      have hlt := Subschemas.height_lt_of_mem_inside hq
      exact ih hinside (show q.2.height ≤ height by omega)

/-- **A schema compiles if it and everything inside it is well-formed.** -/
theorem within_succeeds {stands : Target → Value → Prop} (hclosed : ClosedInside stands)
    (hformed : ∀ here v, stands here v → v.formed here.base = true) {height : Nat}
    {v : Value} (hv : stands here v) (hheight : v.height ≤ height) :
    Succeeds (within height here v) :=
  within_of_schema hclosed (fun {_ here v} hv h => schema_succeeds (hformed here v hv) h) hv hheight

/-- What a node represents is well-formed. -/
theorem formed_of_represents {r : Registry} {i : Nat} {v : Value} {body : Body}
    (h : r.Represents i here v body) : v.formed here.base = true := by
  cases h with
  | bool b => rfl
  | keywords hk _ => exact hk.of_endsIff keywords_endsIff

end Compile

end JsonSchema
