import JsonSchema.Proofs.Compilation.Linking
import JsonSchema.Proofs.Direct.Again

/-!
# Places that are reached

A place in the documents is reached if it is the root of a document, or inside a schema at a place
that is reached, or if the `$ref` of such a schema leads there. Only schemas at such places are ever
compiled. And they all are, once every reference that leads to a schema is bound to a node.
-/

namespace JsonSchema

open Compile

namespace Direct

/-- The places that are reached from the documents. -/
inductive Reachable (documents : List Value) : Target → Prop
  | root {document : Value} {base : BaseUri} : document ∈ documents →
      documentBase .anonymous document = .ok base →
      Reachable documents { base, pointer := .root }
  | inside {here : Target} {members : Members Value} {p : List String × Value} :
      Reachable documents here → valueAt documents here = some (.object members) →
      p ∈ Subschemas.inside members → Reachable documents (here.below p.1)
  | target {here target : Target} {members : Members Value} {v : Value} :
      Reachable documents here → valueAt documents here = some (.object members) →
      RefersTo here.base members target → valueAt documents target = some v →
      Reachable documents target

/-- The schema stands at a place that is reached. -/
def ReachedAt (documents : List Value) (here : Target) (v : Value) : Prop :=
  Reachable documents here ∧ valueAt documents here = some v

variable {documents : List Value}

theorem exists_documentAt {document : Value} {base : BaseUri} (h : document ∈ documents)
    (hbase : documentBase .anonymous document = .ok base) :
    ∃ owner, documentAt documents base = some owner := by
  refine Option.isSome_iff_exists.mp (List.find?_isSome.mpr ⟨document, h, ?_⟩)
  exact hasBase_iff.mpr hbase

theorem valueAt_inside (hd : ∀ document ∈ documents, document.Distinct) {here : Target}
    {members : Members Value} (hv : valueAt documents here = some (.object members))
    {p : List String × Value} (hp : p ∈ Subschemas.inside members) :
    valueAt documents (here.below p.1) = some p.2 := by
  rw [valueAt_below hv]
  exact (Subschemas.reached_inside (distinct_of_valueAt hd hv) p hp).2

/-- There is a value at every place that is reached. -/
theorem Reachable.exists_valueAt (hd : ∀ document ∈ documents, document.Distinct) {here : Target}
    (h : Reachable documents here) : ∃ v, valueAt documents here = some v := by
  cases h with
  | root hmem hbase =>
      obtain ⟨owner, howner⟩ := exists_documentAt hmem hbase
      exact ⟨owner, valueAt_root howner⟩
  | inside _ hv hp => exact ⟨_, valueAt_inside hd hv hp⟩
  | target _ _ _ hv => exact ⟨_, hv⟩

theorem ReachedAt.distinct (hd : ∀ document ∈ documents, document.Distinct) {here : Target}
    {v : Value} (h : ReachedAt documents here v) : v.Distinct := distinct_of_valueAt hd h.2

/-- **Only schemas at places that are reached are ever compiled.** -/
theorem supports_reachable (hd : ∀ document ∈ documents, document.Distinct) :
    Supports documents (ReachedAt documents) where
  closed := by
    intro here members ⟨hreach, hv⟩ p hp
    obtain ⟨q, hq, rfl⟩ := List.mem_map.mp hp
    exact ⟨.inside hreach hv hq, valueAt_inside hd hv hq⟩
  root := by
    intro base document hdocument
    obtain ⟨hmem, hbase⟩ := mem_of_documentAt hdocument
    exact ⟨.root hmem hbase, valueAt_root hdocument⟩
  target := by
    intro here members target v ⟨hreach, hhere⟩ hrefers hv
    exact ⟨.target hreach hhere hrefers hv, hv⟩
  again := by
    intro base owner document r howner hsame hmem _ hr hfound
    have hstands := hr.mono fun here v (h : ReachedAt documents here v) => h.2
    exact compiled_again hd howner hsame hmem hstands hfound hr

end Direct

open Direct

/-! ## All of them are compiled -/

namespace Registry

variable {documents : List Value} {r : Registry}

/-- The root of every document has a node. -/
def Rooted (documents : List Value) (r : Registry) : Prop :=
  ∀ document ∈ documents, ∀ base, documentBase .anonymous document = .ok base →
    (r.lookup base.text).isSome = true

/-- The node of a schema has the reference that its `$ref` says. -/
theorem Faithful.ref?_of_refersTo (hf : r.Faithful (StandsAt documents)) {here target : Target}
    {members : Members Value} (hv : valueAt documents here = some (.object members)) {i : Nat}
    (hi : r.lookup here.key = some i) (hrefers : RefersTo here.base members target) :
    ∃ node ref, r.get? i = some node ∧ node.ref? = some ref ∧ ref.target = target := by
  obtain ⟨node, v, hnode, _, hvalue, hrep⟩ := represents_of_lookup hf hi
  rw [hv] at hvalue
  cases hvalue
  obtain ⟨uri, body⟩ := node
  cases hrep with
  | @keywords _ k own hk hl =>
      obtain ⟨ref, href, htarget⟩ := (refersTo_iff (optional_ref_of_yields hk) target).mp hrefers
      dsimp only at href
      rw [href] at hl
      -- linking has left the target of the reference as it was
      generalize hown : k.ref = own' at hl
      cases hl with
      | @some _ ref' hlinked =>
          exact ⟨_, ref', hnode, hown, hlinked.target.trans htarget⟩

/-- **All schemas at places that are reached have nodes.** -/
theorem isSome_of_reachable (hf : r.Faithful (StandsAt documents)) (hroots : r.Rooted documents)
    (hbound : r.Bound documents) {here : Target} (h : Reachable documents here) :
    (r.lookup here.key).isSome = true := by
  induction h with
  | root hmem hbase => exact hroots _ hmem _ hbase
  | inside _ hv hp ih => exact isSome_inside hf hv ih hp
  | target _ hv hrefers hvalue ih =>
      obtain ⟨i, hi⟩ := Option.isSome_iff_exists.mp ih
      obtain ⟨node, ref, hnode, href, rfl⟩ := hf.ref?_of_refersTo hv hi hrefers
      exact hbound hnode href hvalue

theorem rooted_of_roots {roots : List Root}
    (h : List.Forall₂ (fun document root => documentBase .anonymous document = .ok root.base ∧
      r.lookup root.base.text = some root.index) documents roots) : r.Rooted documents := by
  intro document hmem base hbase
  obtain ⟨root, hown, hfound⟩ := exists_of_mem_left h hmem
  rw [hbase] at hown
  cases hown
  rw [hfound]
  rfl

end Registry

end JsonSchema
