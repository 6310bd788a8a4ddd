import JsonSchema.Proofs.Compilation.History

/-!
# Places and their nodes

A registry knows places by their keys only. No two places have the same key, so a node is the node
of one place at most, and a place that has a node keeps it: whatever is done to the registry later,
the node is given to no other place, and the place is given no other node.
-/

namespace JsonSchema

open Compile

namespace Registry

variable {r r' : Registry}

/-! ## Keys keep their indices -/

theorem Changes.grows (h : r.Changes r') : r.Grows r' := by
  cases h with
  | push hnew _ => exact grows_push hnew
  | link i =>
      intro key j hj
      rw [lookup_linkAt]
      exact hj

theorem grows_of_course (h : Course r r') : r.Grows r' := by
  induction h with
  | refl => exact Grows.refl r
  | tail _ hstep ih => exact ih.trans hstep.grows

/-- **The nodes of two places are the same just if the places are**, though the second one is looked
up later than the first. -/
theorem lookup_eq_iff (hr : r.Coherent) (h : Course r r') {s t : Target} {i j : Nat}
    (hs : r.lookup s.key = some i) (ht : r'.lookup t.key = some j) : i = j ↔ s = t := by
  have hkept : r'.lookup s.key = some i := grows_of_course h _ _ hs
  constructor
  · rintro rfl
    exact (hr.course h).eq_of_lookup hkept ht
  · rintro rfl
    exact Option.some.inj (hkept.symm.trans ht)

/-! ## Registration -/

/-- The operation registers the schema at a place, and gives the index of its node. An `$id` takes
the root of a document to another base. -/
inductive Operation.Registers (r : Registry) : Operation → Target → Nat → Prop where
  /-- A document, which stands at the root. -/
  | compileRoot {document : Value} {root : Root} :
      ((JsonSchema.compileRoot document).run r).1 = .ok root →
      Registers r (.compileRoot document) { base := root.base, pointer := .root } root.index
  /-- A schema in a document. -/
  | compileAt {here : Target} {v : Value} {base : BaseUri} {i : Nat} :
      baseOf here v = .ok base → ((JsonSchema.compileAt here v).run r).1 = .ok i →
      Registers r (.compileAt here v) { here with base } i
  /-- A truth value. -/
  | addBool (here : Target) (accepts : Bool) :
      Registers r (.addBool here.key accepts) here
        (r.add { uri := here.key, body := .bool accepts }).1
  /-- A schema that consists of a reference. -/
  | addRef (here target : Target) :
      Registers r (.addRef here.key target) here
        (r.add
          { uri := here.key, body := .keywords { ref := some { target, resolved := none } } }).1

/-- A schema that has been compiled has the index that was given. -/
theorem lookup_within (hr : r.Coherent) {height : Nat} {here : Target} {v : Value} {i : Nat}
    (h : ((within height here v).run r).1 = .ok i) :
    ((within height here v).run r).2.lookup here.key = some i := by
  have hadding : Adding (fun _ _ => True) (within height) :=
    within_adding (fun _ _ _ _ _ => trivial) height
  exact (hadding here v r trivial hr).2 i h

/-- **The index that is given is the one of the place.** -/
theorem Operation.Registers.lookup (hr : r.Coherent) {operation : Operation} {here : Target}
    {i : Nat} (h : operation.Registers r here i) :
    (operation.apply r).lookup here.key = some i := by
  cases h with
  | @compileRoot document root hroot =>
      have hrun : (JsonSchema.compileRoot document).run r =
        (.ok root, ((JsonSchema.compileRoot document).run r).2) := Prod.ext hroot rfl
      obtain ⟨_, hwithin⟩ := compileRoot_eq_ok hrun
      have hfound := lookup_within hr (congrArg Prod.fst hwithin)
      rw [hwithin] at hfound
      exact hfound
  | @compileAt here v base _ hbase hi =>
      rw [run_compileAt hbase] at hi
      show ((JsonSchema.compileAt here v).run r).2.lookup _ = _
      rw [run_compileAt hbase]
      exact lookup_within hr hi
  | addBool here accepts => exact r.lookup_add { uri := here.key, body := .bool accepts }
  | addRef here target =>
      exact r.lookup_add
        { uri := here.key, body := .keywords { ref := some { target, resolved := none } } }

/-- What is registered first is there when something is registered later. -/
theorem course_after (earlier later : List Operation) (operation : Operation) :
    Course (operation.apply (after earlier)) (after (earlier ++ operation :: later)) := by
  unfold after
  rw [List.foldl_append, List.foldl_cons]
  have hearlier := (sound_after earlier).coherent
  exact course_foldl (hearlier.course (course_apply hearlier operation)) later

end Registry

open Registry

/-- **A place is known by its key, and has a node of its own.** The key tells the base and the
pointer, whatever the tokens are. Two places that have nodes have the same one just if they are the
same place, also if operations come between; and so it is with the indices that two operations give,
whenever they register a place. In the registry of accepted documents every node is the node of one
place. -/
theorem places_have_own_nodes :
    (∀ (b b' : BaseUri) (p p' : Pointer), b.key p = b'.key p' ↔ b = b' ∧ p = p') ∧
    (∀ s t : Target, s = t ↔ s.key = t.key) ∧
    (∀ (r r' : Registry) (s t : Target) (i j : Nat), r.Coherent → Course r r' →
      r.lookup s.key = some i → r'.lookup t.key = some j → (i = j ↔ s = t)) ∧
    (∀ (earlier later : List Operation) (o o' : Operation) (s t : Target) (i j : Nat),
      o.Registers (after earlier) s i → o'.Registers (after (earlier ++ o :: later)) t j →
        (i = j ↔ s = t)) ∧
    ∀ (documents : List Value) (bundle : Bundle), Bundle.ofDocuments documents = .ok bundle →
      ∀ i node, bundle.registry.get? i = some node → ∃! here : Target, node.uri = here.key := by
  refine ⟨fun _ _ _ _ => BaseUri.key_inj, fun _ _ => Target.key_inj.symm,
    fun _ _ _ _ _ _ hr h hs ht => lookup_eq_iff hr h hs ht, ?_, ?_⟩
  · intro earlier later o o' s t i j hs ht
    -- the second operation is one more step of the course
    have hfirst := (sound_after earlier).coherent
    have hsecond := (sound_after (earlier ++ o :: later)).coherent
    have hcourse := (course_after earlier later o).trans (course_apply hsecond o')
    exact lookup_eq_iff (hfirst.course (course_apply hfirst o)) hcourse (hs.lookup hfirst)
      (ht.lookup hsecond)
  · intro documents bundle h i node hnode
    obtain ⟨hfaithful, _, _⟩ := Bundle.linked_of_ofDocuments (supports_true documents) h
    obtain ⟨here, huri, _⟩ := hfaithful.exists_place hnode
    exact ⟨here, huri, fun there hthere => Target.key_injective (hthere.symm.trans huri)⟩

/-- A document with two names that only escaping keeps apart in keys. -/
def lookalikes : Value :=
  .object [("$id", .string "urn:a#"),
    ("properties", .object [("/", .bool true), ("~1", .bool true)])]

/-- The place of one of the names. -/
def lookalike (name : String) : Target :=
  { base := .named ⟨"urn:a", by decide, by decide⟩, pointer := ⟨["properties", name]⟩ }

theorem places_have_own_nodes_lookalikes :
    (lookalike "/").key = "urn:a#/properties/~1" ∧ (lookalike "~1").key = "urn:a#/properties/~01" ∧
    ((after [.compileRoot lookalikes]).Coherent ∧
      Course (after [.compileRoot lookalikes]) (after [.compileRoot lookalikes, .link]) ∧
      (after [.compileRoot lookalikes]).lookup (lookalike "/").key = some 0 ∧
      (after [.compileRoot lookalikes, .link]).lookup (lookalike "~1").key = some 1 ∧
      (0 = 1 ↔ lookalike "/" = lookalike "~1")) ∧
    ((Operation.compileAt (lookalike "~1") (.bool true)).Registers (after []) (lookalike "~1") 0 ∧
      (Operation.compileAt (lookalike "~1") (.bool false)).Registers
        (after [.compileAt (lookalike "~1") (.bool true), .compileRoot lookalikes])
        (lookalike "~1") 0 ∧
      (0 = 0 ↔ lookalike "~1" = lookalike "~1")) ∧
    ∃ bundle node, Bundle.ofDocuments [lookalikes] = .ok bundle ∧
      bundle.registry.get? 1 = some node ∧ ∃! here : Target, node.uri = here.key := by
  obtain ⟨_, _, hlookup, hregisters, hbundle⟩ := places_have_own_nodes
  have hcoherent : (after [.compileRoot lookalikes]).Coherent := (sound_after _).coherent
  have hcourse : Course (after [.compileRoot lookalikes])
      (after [.compileRoot lookalikes, .link]) := course_apply hcoherent .link
  have hslash : (after [.compileRoot lookalikes]).lookup (lookalike "/").key = some 0 := by
    decide +kernel
  have htilde : (after [.compileRoot lookalikes, .link]).lookup (lookalike "~1").key = some 1 := by
    decide +kernel
  have hfirst : (Operation.compileAt (lookalike "~1") (.bool true)).Registers (after [])
      (lookalike "~1") 0 := .compileAt rfl (eq_ok_of_toOption (by decide +kernel))
  have hagain : (Operation.compileAt (lookalike "~1") (.bool false)).Registers
      (after [.compileAt (lookalike "~1") (.bool true), .compileRoot lookalikes])
      (lookalike "~1") 0 := .compileAt rfl (eq_ok_of_toOption (by decide +kernel))
  have hcompiles : (Bundle.ofDocuments [lookalikes]).toOption.map
      (fun bundle => (bundle.registry.get? 1).isSome) = some true := by decide +kernel
  obtain ⟨bundle, hok, hsome⟩ := exists_of_toOption_map hcompiles
  obtain ⟨node, hnode⟩ := Option.isSome_iff_exists.mp hsome
  exact ⟨by decide +kernel, by decide +kernel,
    ⟨hcoherent, hcourse, hslash, htilde, hlookup _ _ _ _ _ _ hcoherent hcourse hslash htilde⟩,
    ⟨hfirst, hagain, hregisters [] [.compileRoot lookalikes] _ _ _ _ _ _ hfirst hagain⟩,
    bundle, node, hok, hnode, hbundle _ _ hok 1 node hnode⟩

end JsonSchema
