import JsonSchema.Proofs.Direct.Same

/-!
# What is there already

A schema is present in a registry if it is well-formed, there is a node for its place, and the
schemas inside it are present. Compiling a schema makes it present, whatever the registry has been
before. Compiling what is present gives the index of its node and adds nothing.

What equals a schema that is present is present as well, since equal schemas have equal schemas
inside, at the same places. So it makes no difference in which form a schema is compiled again.
-/

namespace JsonSchema

namespace Subschemas

/-- In a schema inside a schema no name occurs twice, either. -/
theorem distinct_inside {members : Members Value} (hd : (Value.object members).Distinct)
    {p : List String × Value} (hp : p ∈ inside members) : p.2.Distinct :=
  (Pointer.walk_inside (reached_inside hd p hp).2).2 hd

end Subschemas

namespace Compile

open Subschemas

variable {α : Type} {r r' : Registry} {here : Target} {v w : Value} {i : Nat}
  {compile : Target → Value → Compile Nat}

/-- The schema has been compiled at the place, with everything inside it. -/
inductive Present (r : Registry) : Target → Value → Prop where
  | intro {here : Target} {v : Value} : (r.lookup here.key).isSome = true →
      v.formed here.base = true →
      (∀ members, v = .object members → ∀ p ∈ under here (inside members), Present r p.1 p.2) →
      Present r here v

theorem Present.grows (h : Present r here v) (hgrows : r.Grows r') : Present r' here v := by
  induction h with
  | intro hfound hformed _ ih => exact .intro (hgrows.isSome hfound) hformed ih

/-- **What equals a schema that is present is present.** -/
theorem Present.same (h : Present r here v) (hsame : v.same w = true) (hd : v.Distinct)
    (hd' : w.Distinct) : Present r here w := by
  induction h generalizing w with
  | intro hfound hformed _ ih =>
      refine .intro hfound (formed_of_same hsame hd hd' hformed) fun members hmembers p hp => ?_
      subst hmembers
      obtain ⟨own, rfl, _⟩ := Value.same_object hsame
      obtain ⟨q, hq, rfl⟩ := List.mem_map.mp hp
      -- what is inside has its equal at the same place
      obtain ⟨u, hu, hsame'⟩ := matched_inside (equals_of_same hd hsame) hd hd' q hq
      exact ih own rfl _ (List.mem_map.mpr ⟨_, hu, rfl⟩) hsame' (distinct_inside hd hu)
        (distinct_inside hd' hq)

/-! ## Compiling makes a schema present -/

/-- If the compilation succeeds, the schema is present afterwards. -/
structure Leaves (here : Target) (v : Value) (r : Registry)
    (p : Except SchemaError Nat × Registry) : Prop where
  /-- Keys keep their indices. -/
  grows : r.Grows p.2
  /-- The schema is present, and the answer is the index of its node. -/
  present : ∀ i, p.1 = .ok i → Present p.2 here v ∧ p.2.lookup here.key = some i

/-- A reading that is carried out ends if the schema is well-formed, and everything that it asked
for is present. -/
theorem present_of_reading (hc : ∀ here v r, Leaves here v r ((compile here v).run r))
    {m : Reading α} {l : List (Target × Value)} {P : Prop} (hl : m.Asks l) (hm : m.EndsIff P)
    (r : Registry) :
    r.Grows ((m.run compile).run r).2 ∧ ∀ a, ((m.run compile).run r).1 = .ok a →
      P ∧ ∀ p ∈ l, Present ((m.run compile).run r).2 p.1 p.2 := by
  induction m generalizing l r with
  | done a =>
      cases hl
      exact ⟨Registry.Grows.refl r, fun _ _ => ⟨hm, fun p hp => absurd hp List.not_mem_nil⟩⟩
  | failed e =>
      refine ⟨Registry.Grows.refl r, fun a ha => ?_⟩
      cases ha
  | needs place v next ih =>
      obtain ⟨rest, rfl, hrest⟩ := hl
      have hplace := hc place v r
      rw [Reading.run, run_bind]
      generalize (compile place v).run r = p at hplace
      obtain ⟨answer, r'⟩ := p
      cases answer with
      | error e =>
          refine ⟨hplace.grows, fun a ha => ?_⟩
          cases ha
      | ok i =>
          obtain ⟨hgrows, hrest⟩ := ih i (hrest i) (hm i) r'
          refine ⟨hplace.grows.trans hgrows, fun a ha => ?_⟩
          obtain ⟨hP, hpresent⟩ := hrest a ha
          refine ⟨hP, List.forall_mem_cons.mpr ⟨?_, hpresent⟩⟩
          -- what has been compiled first is still there
          exact (hplace.present i rfl).1.grows hgrows

/-- A node for the schema makes it present if everything inside it is. -/
theorem leaves_register (hgrows : r.Grows r') (body : Body) (hformed : v.formed here.base = true)
    (hinside : ∀ members, v = .object members →
      ∀ p ∈ under here (inside members), Present r' p.1 p.2) :
    Leaves here v r ((register { uri := here.key, body }).run r') := by
  have hfound := r'.lookup_add { uri := here.key, body }
  have hadd := r'.grows_add { uri := here.key, body }
  rw [run_register]
  refine ⟨hgrows.trans hadd, fun i hi => ?_⟩
  cases hi
  refine ⟨.intro (by rw [hfound]; rfl) hformed fun members hmembers p hp => ?_, hfound⟩
  exact (hinside members hmembers p hp).grows hadd

theorem schema_leaves (hc : ∀ here v r, Leaves here v r ((compile here v).run r)) (here : Target)
    (v : Value) (r : Registry) : Leaves here v r ((schema compile here v).run r) := by
  have hthrow : ∀ e, Leaves here v r ((throw e : Compile Nat).run r) :=
    fun e => ⟨Registry.Grows.refl r, fun i hi => nomatch hi⟩
  cases v with
  | bool b => exact leaves_register (Registry.Grows.refl r) _ rfl fun _ hno => nomatch hno
  | object members =>
      obtain ⟨hgrows, hreading⟩ :=
        present_of_reading hc (keywords_asks here members) keywords_endsIff r
      show Leaves here (.object members) r (((keywords here members).run compile >>= fun k =>
        register { uri := here.key, body := .keywords k }).run r)
      rw [run_bind]
      generalize ((keywords here members).run compile).run r = p at hgrows hreading
      obtain ⟨answer, r'⟩ := p
      cases answer with
      | error e => exact ⟨hgrows, fun i hi => nomatch hi⟩
      | ok k =>
          obtain ⟨hformed, hpresent⟩ := hreading k rfl
          refine leaves_register hgrows _ hformed fun own hown => ?_
          cases hown
          exact hpresent
  | _ => exact hthrow _

/-- **What has been compiled is present.** -/
theorem within_leaves (height : Nat) (here : Target) (v : Value) (r : Registry) :
    Leaves here v r ((within height here v).run r) := by
  induction height generalizing here v r with
  | zero =>
      refine schema_leaves (fun here v r => ?_) here v r
      exact ⟨Registry.Grows.refl r, fun i hi => nomatch hi⟩
  | succ height ih => exact schema_leaves ih here v r

/-! ## Compiling what is present -/

/-- The compilation succeeds and adds nothing. -/
def Rests (r : Registry) (m : Compile α) : Prop := ∃ a, m.run r = (.ok a, r)

/-- A reading ends without adding anything if nothing that it asks for adds anything. -/
theorem rests_reading {m : Reading α} {l : List (Target × Value)} {P : Prop} (hl : m.Asks l)
    (hm : m.EndsIff P) (hp : P) (h : ∀ p ∈ l, Rests r (compile p.1 p.2)) :
    Rests r (m.run compile) := by
  induction m generalizing l with
  | done a => exact ⟨a, rfl⟩
  | failed e => exact absurd hp hm
  | needs place v next ih =>
      obtain ⟨rest, rfl, hrest⟩ := hl
      rw [List.forall_mem_cons] at h
      obtain ⟨i, hi⟩ := h.1
      obtain ⟨a, ha⟩ := ih i (hrest i) (hm i) h.2
      refine ⟨a, ?_⟩
      rw [Reading.run, run_bind, hi]
      exact ha

theorem rests_register (h : (r.lookup here.key).isSome = true) (body : Body) :
    Rests r (register { uri := here.key, body }) := by
  obtain ⟨i, hi⟩ := Option.isSome_iff_exists.mp h
  refine ⟨i, ?_⟩
  rw [run_register]
  unfold Registry.add
  rw [hi]

theorem rests_schema (h : Present r here v)
    (hc : ∀ members, v = .object members →
      ∀ p ∈ under here (inside members), Rests r (compile p.1 p.2)) :
    Rests r (schema compile here v) := by
  obtain ⟨hfound, hformed, _⟩ := h
  cases v with
  | bool b => exact rests_register hfound _
  | object members =>
      obtain ⟨k, hk⟩ :=
        rests_reading (keywords_asks here members) keywords_endsIff hformed (hc members rfl)
      obtain ⟨i, hi⟩ := rests_register hfound (.keywords k)
      refine ⟨i, ?_⟩
      show ((keywords here members).run compile >>= fun k =>
        register { uri := here.key, body := .keywords k }).run r = (.ok i, r)
      rw [run_bind, hk]
      exact hi
  | _ => exact nomatch hformed

/-- **Compiling what is present adds nothing.** -/
theorem rests_within {height : Nat} (h : Present r here v) (hd : v.Distinct)
    (hheight : v.height ≤ height) : Rests r (within height here v) := by
  induction height generalizing here v with
  | zero =>
      refine rests_schema h fun members hmembers p hp => ?_
      -- nothing is inside a value without height
      subst hmembers
      obtain ⟨q, hq, rfl⟩ := List.mem_map.mp hp
      have hlt := height_lt_of_mem_inside hq
      omega
  | succ height ih =>
      refine rests_schema h fun members hmembers p hp => ?_
      subst hmembers
      have hpresent : Present r p.1 p.2 := by
        obtain ⟨_, _, hinside⟩ := h
        exact hinside members rfl p hp
      obtain ⟨q, hq, rfl⟩ := List.mem_map.mp hp
      have hlt := height_lt_of_mem_inside hq
      exact ih hpresent (distinct_inside hd hq) (show q.2.height ≤ height by omega)

/-- The answer is the index of the node that is there. -/
theorem run_of_present {height : Nat} (h : Present r here v) (hd : v.Distinct)
    (hheight : v.height ≤ height) :
    ∃ i, r.lookup here.key = some i ∧ (within height here v).run r = (.ok i, r) := by
  obtain ⟨i, hi⟩ := rests_within h hd hheight
  have hleaves := within_leaves height here v r
  rw [hi] at hleaves
  exact ⟨i, (hleaves.present i rfl).2, hi⟩

end Compile

end JsonSchema
