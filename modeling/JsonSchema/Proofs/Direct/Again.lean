import JsonSchema.Proofs.Compilation.Roots
import JsonSchema.Proofs.Direct.Present

/-!
# Compiling a document again

A document may be given twice, and the second time its members may be ordered in another way and its
numbers written in another way. Compiling it then adds nothing: the schemas inside equal schemas
have the same places, and all these places have their nodes already.
-/

namespace JsonSchema

namespace Compile

open Direct Subschemas

variable {documents : List Value}

/-- The value that stands at a place. -/
abbrev StandsAt (documents : List Value) (place : Target) (v : Value) : Prop :=
  valueAt documents place = some v

/-- The node with the key of a place represents the value there. -/
theorem represents_of_lookup {r : Registry} (hr : r.Faithful (StandsAt documents)) {here : Target}
    {i : Nat} (hi : r.lookup here.key = some i) :
    ∃ node v, r.get? i = some node ∧ node.uri = here.key ∧ valueAt documents here = some v ∧
      r.Represents i here v node.body := by
  obtain ⟨node, hnode, huri⟩ := hr.coherent _ _ hi
  obtain ⟨there, v, hthere, hv, hrep⟩ := hr.compiled hnode
  -- the node was compiled from the schema at some place with this key, and there is only one
  have heq : there = here := Target.key_injective (hthere.symm.trans huri)
  subst heq
  exact ⟨node, v, hnode, huri, hv, hrep⟩

/-- The schemas inside a schema that has a node have nodes. -/
theorem isSome_inside {r : Registry} (hr : r.Faithful (StandsAt documents)) {here : Target}
    {members : Members Value} (hv : valueAt documents here = some (.object members))
    (h : (r.lookup here.key).isSome = true) {p : List String × Value} (hp : p ∈ inside members) :
    (r.lookup (here.below p.1).key).isSome = true := by
  obtain ⟨i, hi⟩ := Option.isSome_iff_exists.mp h
  obtain ⟨node, v, _, _, hvalue, hrep⟩ := represents_of_lookup hr hi
  rw [hv] at hvalue
  cases hvalue
  generalize node.body = body at hrep
  cases hrep with
  | keywords hk _ =>
      have hmem : (here.below p.1, p.2) ∈ under here (inside members) :=
        List.mem_map.mpr ⟨p, hp, rfl⟩
      -- all that compiling the keywords asked for was given an index
      obtain ⟨j, hj⟩ := hk.index_of_asks (keywords_asks here members) hmem
      exact Option.isSome_iff_exists.mpr ⟨j, hj.2⟩

/-! ## The values in the documents -/

theorem distinct_of_valueAt (h : ∀ document ∈ documents, document.Distinct) {here : Target}
    {v : Value} (hv : valueAt documents here = some v) : v.Distinct := by
  obtain ⟨document, hdocument, hwalk⟩ := Option.bind_eq_some_iff.mp hv
  exact (Pointer.walk_inside hwalk).2 (h _ (mem_of_documentAt hdocument).1)

/-- A schema that has a node is present, with everything inside it. -/
theorem present_of_isSome (h : ∀ document ∈ documents, document.Distinct) {r : Registry}
    (hr : r.Faithful (StandsAt documents)) {here : Target} {v : Value}
    (hv : valueAt documents here = some v) (hfound : (r.lookup here.key).isSome = true) :
    Present r here v := by
  -- what is inside is less high
  induction hheight : v.height using Nat.strongRecOn generalizing here v with
  | ind height ih =>
      obtain ⟨i, hi⟩ := Option.isSome_iff_exists.mp hfound
      obtain ⟨node, w, _, _, hw, hrep⟩ := represents_of_lookup hr hi
      rw [hv] at hw
      cases hw
      refine .intro hfound (formed_of_represents hrep) fun members hmembers p hp => ?_
      subst hmembers
      obtain ⟨q, hq, rfl⟩ := List.mem_map.mp hp
      have hd := distinct_of_valueAt h hv
      have hinside : valueAt documents (here.below q.1) = some q.2 := by
        rw [valueAt_below hv]
        exact (reached_inside hd q hq).2
      have hlt := height_lt_of_mem_inside hq
      exact ih q.2.height (hheight ▸ hlt) hinside (isSome_inside hr hv hfound hq) rfl

/-- A document that equals the one which is kept adds nothing. -/
theorem compiled_again (h : ∀ document ∈ documents, document.Distinct) {base : BaseUri}
    {owner document : Value} {r : Registry} (howner : documentAt documents base = some owner)
    (hsame : owner.same document = true) (hmem : document ∈ documents)
    (hstands : r.Faithful (StandsAt documents)) (hfound : (r.lookup base.text).isSome = true)
    {stands : Target → Value → Prop} (hr : r.Faithful stands) :
    Compiled stands { base, pointer := .root } r
      ((within document.height { base, pointer := .root } document).run r) := by
  -- the first document with this base stands here, and this one equals it
  have howned := present_of_isSome h hstands (valueAt_root howner) hfound
  have hd := h _ (mem_of_documentAt howner).1
  have hpresent := howned.same hsame hd (h _ hmem)
  obtain ⟨i, hi, hrun⟩ := run_of_present hpresent (h _ hmem) (Nat.le_refl _)
  rw [hrun]
  refine ⟨hr, Registry.Grows.refl r, fun j hj => ?_⟩
  cases hj
  exact hi

/-- **The values at the places of the documents are all that is ever compiled.** -/
theorem supports_valueAt (h : ∀ document ∈ documents, document.Distinct) :
    Supports documents (StandsAt documents) where
  closed := by
    intro here members hv p hp
    obtain ⟨⟨tokens, v⟩, hv', rfl⟩ := List.mem_map.mp hp
    show valueAt documents (here.below tokens) = some v
    rw [valueAt_below hv]
    exact (reached_inside (distinct_of_valueAt h hv) _ hv').2
  root _ _ hdocument := valueAt_root hdocument
  target _ _ hv := hv
  again howner hsame hmem _ hr hfound := compiled_again h howner hsame hmem hr hfound hr

end Compile

end JsonSchema
