import JsonSchema.Proofs.Compilation.Reading
import JsonSchema.Schema.Compile

/-!
# The schemas inside a schema

Which values inside a schema are schemas themselves depends on its keywords alone.
`Subschemas.inside` lists them with the ways to them, in the order in which they are compiled, and
`keywords_asks` says that compiling the keywords asks for exactly these.
-/

namespace JsonSchema

theorem Target.below_below (here : Target) (tokens tokens' : List String) :
    (here.below tokens).below tokens' = here.below (tokens ++ tokens') := by
  simp only [below, List.append_assoc]

namespace Subschemas

/-- The schema of a keyword that takes one. -/
def single (members : Members Value) (keyword : String) : List (List String × Value) :=
  match members.get? keyword with
  | none => []
  | some v => [([keyword], v)]

/-- The elements of an array of schemas. -/
def elements (keyword : String) (schemas : List Value) : List (List String × Value) :=
  schemas.zipIdx.map fun (v, i) => ([keyword, toString i], v)

/-- The schemas of a keyword that takes an array of them. -/
def listed (members : Members Value) (keyword : String) : List (List String × Value) :=
  match members.get? keyword with
  | some (.array schemas) => elements keyword schemas
  | _ => []

/-- The schemas of `items`. -/
def items (members : Members Value) : List (List String × Value) :=
  match members.get? "items" with
  | none => []
  | some (.array schemas) => elements "items" schemas
  | some v => [(["items"], v)]

/-- The schemas of a keyword that takes an object of them. -/
def named (members : Members Value) (keyword : String) : List (List String × Value) :=
  match members.get? keyword with
  | some (.object m) => m.map fun (name, v) => ([keyword, name], v)
  | _ => []

/-- The schema of a member of `dependencies`, which may be a list of names instead. -/
def dependency (name : String) : Value → List (List String × Value)
  | .array _ => []
  | v => [(["dependencies", name], v)]

/-- The schemas of `dependencies`. -/
def dependencies (members : Members Value) : List (List String × Value) :=
  match members.get? "dependencies" with
  | some (.object m) => m.flatMap fun (name, v) => dependency name v
  | _ => []

/-- The schemas of the keywords that combine schemas. -/
def combinators (members : Members Value) : List (List String × Value) :=
  single members "not" ++ (single members "if" ++ (single members "then" ++
    (single members "else" ++ (listed members "allOf" ++ (listed members "anyOf" ++
      listed members "oneOf")))))

/-- The schemas of the keywords that apply to arrays. -/
def arrays (members : Members Value) : List (List String × Value) :=
  items members ++ (single members "additionalItems" ++ single members "contains")

/-- The schemas of the keywords that apply to objects. -/
def objects (members : Members Value) : List (List String × Value) :=
  named members "properties" ++ (named members "patternProperties" ++
    (single members "additionalProperties" ++ (dependencies members ++
      single members "propertyNames")))

/-- The schemas inside a schema with these members. -/
def inside (members : Members Value) : List (List String × Value) :=
  combinators members ++ (arrays members ++ objects members)

/-- The places of schemas inside the schema at `here`. -/
def under (here : Target) (l : List (List String × Value)) : List (Target × Value) :=
  l.map fun (tokens, v) => (here.below tokens, v)

theorem under_append (here : Target) (l l' : List (List String × Value)) :
    under here (l ++ l') = under here l ++ under here l' := List.map_append

/-! ## Without the ways -/

/-- The keywords whose value is one schema. -/
def schemaKeywords : List String :=
  ["not", "if", "then", "else", "additionalItems", "contains", "additionalProperties",
    "propertyNames"]

/-- The keywords whose value is an array of schemas, as that of `items` may be. -/
def listKeywords : List String := ["allOf", "anyOf", "oneOf"]

/-- The keywords whose value is an object of schemas, as that of `dependencies` may be in part. -/
def objectKeywords : List String := ["properties", "patternProperties"]

/-- The value stands inside an object with these members where there must be a schema. -/
inductive Inside (members : Members Value) : Value → Prop
  /-- It is the value of a keyword. -/
  | single {keyword : String} {v : Value} : keyword ∈ schemaKeywords →
      members.get? keyword = some v → Inside members v
  /-- It is an element of the value of a keyword. -/
  | listed {keyword : String} {schemas : List Value} {v : Value} : keyword ∈ listKeywords →
      members.get? keyword = some (.array schemas) → v ∈ schemas → Inside members v
  /-- It is an element of `items`. -/
  | positional {schemas : List Value} {v : Value} :
      members.get? "items" = some (.array schemas) → v ∈ schemas → Inside members v
  /-- It is the value of `items`, and no array. -/
  | items {v : Value} : members.get? "items" = some v → (∀ schemas, v ≠ .array schemas) →
      Inside members v
  /-- It is a member of the value of a keyword. -/
  | named {keyword name : String} {m : Members Value} {v : Value} : keyword ∈ objectKeywords →
      members.get? keyword = some (.object m) → (name, v) ∈ m → Inside members v
  /-- It is a member of `dependencies`, and no array. -/
  | dependency {name : String} {m : Members Value} {v : Value} :
      members.get? "dependencies" = some (.object m) → (name, v) ∈ m →
      (∀ names, v ≠ .array names) → Inside members v

variable {members : Members Value} {v : Value}

theorem exists_mem_append {l l' : List (List String × Value)} :
    (∃ way, (way, v) ∈ l ++ l') ↔ (∃ way, (way, v) ∈ l) ∨ ∃ way, (way, v) ∈ l' := by
  simp only [List.mem_append, exists_or]

theorem exists_mem_single {keyword : String} :
    (∃ way, (way, v) ∈ single members keyword) ↔ members.get? keyword = some v := by
  unfold single
  cases members.get? keyword with
  | none => simp
  | some w => simp [eq_comm]

theorem exists_mem_elements {keyword : String} {schemas : List Value} :
    (∃ way, (way, v) ∈ elements keyword schemas) ↔ v ∈ schemas := by
  unfold elements
  constructor
  · rintro ⟨way, hway⟩
    obtain ⟨⟨w, i⟩, hw, heq⟩ := List.mem_map.mp hway
    cases heq
    exact List.mem_of_getElem? (List.mem_zipIdx_iff_getElem?.mp hw)
  · intro hv
    obtain ⟨i, hi⟩ := List.mem_iff_getElem?.mp hv
    have hnumbered : (v, i) ∈ schemas.zipIdx := List.mem_zipIdx_iff_getElem?.mpr hi
    exact ⟨[keyword, toString i], List.mem_map_of_mem hnumbered⟩

theorem exists_mem_listed {keyword : String} :
    (∃ way, (way, v) ∈ listed members keyword) ↔
      ∃ schemas, members.get? keyword = some (.array schemas) ∧ v ∈ schemas := by
  unfold listed
  cases members.get? keyword with
  | none => simp
  | some w =>
      cases w with
      | array schemas => simp [exists_mem_elements]
      | _ => simp

theorem exists_mem_items :
    (∃ way, (way, v) ∈ items members) ↔
      (∃ schemas, members.get? "items" = some (.array schemas) ∧ v ∈ schemas) ∨
        (members.get? "items" = some v ∧ ∀ schemas, v ≠ .array schemas) := by
  unfold items
  cases members.get? "items" with
  | none => simp
  | some w =>
      cases w with
      | array schemas =>
          simp only [exists_mem_elements, Option.some.injEq, Value.array.injEq]
          refine ⟨fun hv => .inl ⟨schemas, rfl, hv⟩, ?_⟩
          rintro (⟨_, rfl, hv⟩ | ⟨rfl, hno⟩)
          · exact hv
          · exact absurd rfl (hno schemas)
      | _ =>
          simp only [List.mem_singleton, Prod.mk.injEq, exists_eq_left]
          refine ⟨?_, ?_⟩
          · rintro rfl
            simp
          · rintro (⟨_, hno, _⟩ | ⟨heq, _⟩)
            · cases hno
            · cases heq
              rfl

theorem exists_mem_named {keyword : String} :
    (∃ way, (way, v) ∈ named members keyword) ↔
      ∃ m name, members.get? keyword = some (.object m) ∧ (name, v) ∈ m := by
  unfold named
  cases members.get? keyword with
  | none => simp
  | some w => cases w <;> simp

theorem exists_mem_dependencies :
    (∃ way, (way, v) ∈ dependencies members) ↔
      ∃ m name, members.get? "dependencies" = some (.object m) ∧ (name, v) ∈ m ∧
        ∀ names, v ≠ .array names := by
  have hdependency : ∀ name w way, (way, v) ∈ dependency name w ↔
      (∀ names, w ≠ .array names) ∧ (way, v) = (["dependencies", name], w) := by
    intro name w way
    cases w <;> simp [dependency]
  unfold dependencies
  cases members.get? "dependencies" with
  | none => simp
  | some w =>
      cases w with
      | object m =>
          simp only [List.mem_flatMap, Option.some.injEq, Value.object.injEq]
          constructor
          · rintro ⟨way, ⟨name, w⟩, hm, hw⟩
            obtain ⟨hno, heq⟩ := (hdependency name w way).mp hw
            cases heq
            exact ⟨m, name, rfl, hm, hno⟩
          · rintro ⟨_, name, rfl, hm, hno⟩
            exact ⟨_, (name, v), hm, (hdependency name v _).mpr ⟨hno, rfl⟩⟩
      | _ => simp

/-- **The list holds the values that must be schemas**, each with a way to it. -/
theorem exists_mem_inside : (∃ way, (way, v) ∈ inside members) ↔ Inside members v := by
  simp only [inside, combinators, arrays, objects, exists_mem_append, exists_mem_single,
    exists_mem_listed, exists_mem_items, exists_mem_named, exists_mem_dependencies]
  constructor
  · have hone : ∀ keyword ∈ schemaKeywords, members.get? keyword = some v → Inside members v :=
      fun _ hkeyword hv => .single hkeyword hv
    rintro ((h | h | h | h | ⟨_, h, hv⟩ | ⟨_, h, hv⟩ | ⟨_, h, hv⟩) |
      ((⟨_, h, hv⟩ | ⟨h, hno⟩) | h | h) |
      (⟨_, _, h, hv⟩ | ⟨_, _, h, hv⟩ | h | ⟨_, _, h, hv, hno⟩ | h))
    -- the keywords that combine schemas
    · exact hone "not" (by decide) h
    · exact hone "if" (by decide) h
    · exact hone "then" (by decide) h
    · exact hone "else" (by decide) h
    · exact .listed (by decide) h hv
    · exact .listed (by decide) h hv
    · exact .listed (by decide) h hv
    -- those that apply to arrays
    · exact .positional h hv
    · exact .items h hno
    · exact hone "additionalItems" (by decide) h
    · exact hone "contains" (by decide) h
    -- those that apply to objects
    · exact .named (by decide) h hv
    · exact .named (by decide) h hv
    · exact hone "additionalProperties" (by decide) h
    · exact .dependency h hv hno
    · exact hone "propertyNames" (by decide) h
  · intro h
    cases h with
    | single hkeyword hv =>
        simp only [schemaKeywords, List.mem_cons, List.not_mem_nil, or_false] at hkeyword
        rcases hkeyword with rfl | rfl | rfl | rfl | rfl | rfl | rfl | rfl <;>
          simp only [hv, true_or, or_true]
    | @listed keyword schemas _ hkeyword hschemas hv =>
        have hlist : ∃ schemas, members.get? keyword = some (.array schemas) ∧ v ∈ schemas :=
          ⟨schemas, hschemas, hv⟩
        simp only [listKeywords, List.mem_cons, List.not_mem_nil, or_false] at hkeyword
        rcases hkeyword with rfl | rfl | rfl <;> simp only [hlist, true_or, or_true]
    | positional hschemas hv => exact .inr (.inl (.inl (.inl ⟨_, hschemas, hv⟩)))
    | items hv hno => exact .inr (.inl (.inl (.inr ⟨hv, hno⟩)))
    | @named keyword name m _ hkeyword hm hv =>
        have hmember : ∃ m name, members.get? keyword = some (.object m) ∧ (name, v) ∈ m :=
          ⟨m, name, hm, hv⟩
        simp only [objectKeywords, List.mem_cons, List.not_mem_nil, or_false] at hkeyword
        rcases hkeyword with rfl | rfl <;> simp only [hmember, true_or, or_true]
    | dependency hm hv hno =>
        exact .inr (.inr (.inr (.inr (.inr (.inl ⟨_, _, hm, hv, hno⟩)))))

end Subschemas

namespace Compile

open Subschemas

variable (here : Target) (members : Members Value)

theorem schemaOf_asks (keyword : String) :
    (schemaOf here members keyword).Asks (under here (single members keyword)) := by
  unfold schemaOf single
  cases members.get? keyword with
  | none => exact Reading.asks_pure none
  | some v => exact (Reading.asks_sub (here.below [keyword]) v).map some

theorem schemasAt_asks (keyword : String) (schemas : List Value) :
    (schemasAt (here.below [keyword]) schemas).Asks (under here (elements keyword schemas)) := by
  have h : under here (elements keyword schemas) =
      schemas.zipIdx.flatMap fun p =>
        [((here.below [keyword]).below [toString p.2], p.1)] := by
    unfold under elements
    rw [List.map_map, List.map_eq_flatMap]
    simp only [Target.below_below]
    rfl
  rw [h]
  exact Reading.asks_mapM (fun p : Value × Nat => Reading.asks_sub _ p.1) _

theorem schemasOf_asks (keyword : String) :
    (schemasOf here members keyword).Asks (under here (listed members keyword)) := by
  unfold schemasOf listed
  cases members.get? keyword with
  | none => exact Reading.asks_pure none
  | some v =>
      cases v with
      | array schemas =>
          cases schemas with
          | nil => exact Reading.asks_failed _ _
          | cons v rest => exact (schemasAt_asks here keyword (v :: rest)).map some
      | _ => exact Reading.asks_failed _ _

theorem itemsOf_asks : (itemsOf here members).Asks (under here (items members)) := by
  unfold itemsOf items
  cases members.get? "items" with
  | none => exact Reading.asks_pure none
  | some v =>
      cases v with
      | array schemas =>
          exact (schemasAt_asks here "items" schemas).map (fun l => some (Items.positional l))
      | object m =>
          exact (Reading.asks_sub (here.below ["items"]) _).map (fun i => some (Items.all i))
      | bool b =>
          exact (Reading.asks_sub (here.below ["items"]) _).map (fun i => some (Items.all i))
      | _ => exact Reading.asks_failed _ _

theorem propertyAt_asks (name : String) (v : Value) :
    (propertyAt here name v).Asks (under here [(["properties", name], v)]) :=
  (Reading.asks_sub _ v).map (name, ·)

theorem patternPropertyAt_asks (text : String) (v : Value) :
    (patternPropertyAt here text v).Asks (under here [(["patternProperties", text], v)]) := by
  unfold patternPropertyAt
  cases asPattern text with
  | error flaw => exact Reading.asks_failed _ _
  | ok pattern => exact (Reading.asks_sub _ v).map (pattern, ·)

theorem dependencyAt_asks (name : String) (v : Value) :
    (dependencyAt here name v).Asks (under here (dependency name v)) := by
  unfold dependencyAt
  cases v with
  | array names =>
      dsimp only
      cases asStrings (.array names) with
      | error flaw => exact Reading.asks_failed _ _
      | ok names => exact Reading.asks_pure _
  | object m => exact (Reading.asks_sub _ _).map fun i => (name, Dependency.schema i)
  | bool b => exact (Reading.asks_sub _ _).map fun i => (name, Dependency.schema i)
  | _ => exact Reading.asks_failed _ _

/-- A keyword with an object asks for what its members ask for. -/
theorem eachMember_asks {α : Type} {entry : String → Value → Reading α}
    {asked : String → Value → List (List String × Value)} (keyword : String)
    (h : ∀ name v, (entry name v).Asks (under here (asked name v))) :
    (eachMember entry here members keyword).Asks
      (under here (match members.get? keyword with
        | some (.object m) => m.flatMap fun (name, v) => asked name v
        | _ => [])) := by
  unfold eachMember membersOf
  cases members.get? keyword with
  | none => exact Reading.asks_pure none
  | some v =>
      cases v with
      | object m =>
          have hm : under here (m.flatMap fun (name, v) => asked name v) =
              m.flatMap fun p => under here (asked p.1 p.2) := List.map_flatMap
          rw [hm]
          exact (Reading.asks_mapM (fun p => h p.1 p.2) m).map some
      | _ => exact Reading.asks_failed _ _

theorem named_asks {α : Type} {entry : String → Value → Reading α} (keyword : String)
    (h : ∀ name v, (entry name v).Asks (under here [([keyword, name], v)])) :
    (eachMember entry here members keyword).Asks (under here (named members keyword)) := by
  have hnamed : named members keyword = match members.get? keyword with
      | some (.object m) => m.flatMap fun (name, v) => [([keyword, name], v)]
      | _ => [] := by
    unfold named
    split
    · exact List.map_eq_flatMap
    · rfl
  rw [hnamed]
  exact eachMember_asks here members keyword h

theorem combinators_asks :
    (combinators here members).Asks (under here (Subschemas.combinators members)) := by
  unfold combinators Subschemas.combinators
  simp only [under_append]
  refine (schemaOf_asks here members "not").bind fun _ => ?_
  refine (schemaOf_asks here members "if").bind fun _ => ?_
  refine (schemaOf_asks here members "then").bind fun _ => ?_
  refine (schemaOf_asks here members "else").bind fun _ => ?_
  refine (schemasOf_asks here members "allOf").bind fun _ => ?_
  refine (schemasOf_asks here members "anyOf").bind fun _ => ?_
  exact (schemasOf_asks here members "oneOf").map _

theorem arrayRules_asks : (arrayRules here members).Asks (under here (arrays members)) := by
  unfold arrayRules arrays
  simp only [under_append]
  refine (itemsOf_asks here members).bind fun _ => ?_
  refine (schemaOf_asks here members "additionalItems").bind fun _ => ?_
  refine (Reading.asks_lift _).bind (l := []) fun _ => ?_
  refine (Reading.asks_lift _).bind (l := []) fun _ => ?_
  refine (Reading.asks_lift _).bind (l := []) fun _ => ?_
  exact (schemaOf_asks here members "contains").map _

theorem objectRules_asks : (objectRules here members).Asks (under here (objects members)) := by
  unfold objectRules objects
  simp only [under_append]
  refine (Reading.asks_lift _).bind (l := []) fun _ => ?_
  refine (Reading.asks_lift _).bind (l := []) fun _ => ?_
  refine (Reading.asks_lift _).bind (l := []) fun _ => ?_
  -- the counts and the names that are required come first, and ask for nothing
  refine (named_asks here members "properties" (propertyAt_asks here)).bind fun _ => ?_
  refine (named_asks here members "patternProperties" (patternPropertyAt_asks here)).bind
    fun _ => ?_
  refine (schemaOf_asks here members "additionalProperties").bind fun _ => ?_
  refine (eachMember_asks here members "dependencies" (dependencyAt_asks here)).bind fun _ => ?_
  exact (schemaOf_asks here members "propertyNames").map _

/-- **Compiling the keywords of a schema asks for the schemas inside it.** -/
theorem keywords_asks : (keywords here members).Asks (under here (inside members)) := by
  unfold keywords inside
  simp only [under_append]
  refine (Reading.asks_lift _).bind (l := []) fun _ => ?_
  refine (Reading.asks_lift _).bind (l := []) fun _ => ?_
  refine (Reading.asks_lift _).bind (l := []) fun _ => ?_
  refine (combinators_asks here members).bind fun _ => ?_
  refine (Reading.asks_lift _).bind (l := []) fun _ => ?_
  refine (Reading.asks_lift _).bind (l := []) fun _ => ?_
  refine (arrayRules_asks here members).bind fun _ => ?_
  exact (objectRules_asks here members).map _

end Compile

end JsonSchema
