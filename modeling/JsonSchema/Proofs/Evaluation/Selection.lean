import JsonSchema.Proofs.Addressing.Selector
import JsonSchema.Proofs.Compilation.Linking
import JsonSchema.Validator

/-!
# What selectors select

Every node of a validator can be selected by the text of its base and its pointer in percent
encoding, and a reference in its document reaches it by the same fragment. Without a selector the
root of the last document is used, which the URI of that document selects as well.

The URI of a node is its base and its pointer as they are. As a selector it is decoded all the same,
so it selects the node only if nothing in the pointer looks like an escape; the URI of a node whose
pointer has one leads to another place.
-/

namespace JsonSchema

open Percent

/-- A selector that leads to a place evaluates the node that is there, from this place on. -/
theorem Validator.validateAt_of_selects {validator : Validator} {selector : String} {here : Target}
    {i : Nat} (hselects : Target.ofSelector selector = .ok here)
    (hi : validator.bundle.registry.lookup here.key = some i) (v : Value) :
    validator.validateAt selector v = validator.runAt here i v := by
  unfold validateAt
  rw [hselects]
  dsimp only
  rw [hi]

/-- **The URI of a node selects the node** unless there is an escape in its pointer: a `%` in front
of two hexadecimal digits, which is decoded although nothing was encoded. -/
theorem uri_selects_node (documents : List Value) (config : Config) (validator : Validator)
    (h : Validator.ofDocuments documents config = .ok validator) :
    (∀ here : Target, here.base.Rereads →
      (Target.ofSelector here.key = .ok here ↔ ¬ HasEscape here.pointer.text.toList)) ∧
    ∀ i node, validator.bundle.registry.get? i = some node →
      ∃ here : Target, node.uri = here.key ∧
        (here.base.Rereads → ¬ HasEscape here.pointer.text.toList →
          ∀ v, validator.validateAt node.uri v = validator.runAt here i v) := by
  refine ⟨fun here hbase => Target.ofSelector_key hbase, fun i node hnode => ?_⟩
  obtain ⟨bundle, hbundle, hvalidator⟩ := bind_eq_ok h
  cases hvalidator
  obtain ⟨hf, _, _⟩ := Bundle.linked_of_ofDocuments (supports_true documents) hbundle
  obtain ⟨here, huri, hi⟩ := hf.exists_place hnode
  refine ⟨here, huri, fun hbase hno v => ?_⟩
  have hselects : Target.ofSelector node.uri = .ok here := by
    rw [huri]
    exact (Target.ofSelector_key hbase).mpr hno
  exact Validator.validateAt_of_selects hselects hi v

/-- A document with a name that needs every kind of escaping. -/
def oddNames : Value :=
  .object [("$id", .string "urn:odd"),
    ("properties", .object [("100% é~/#", .object [("type", .string "string")])])]

/-- The place of that name. Its `%` is followed by a blank. -/
def oddPlace (base : BaseUri) : Target := { base, pointer := ⟨["properties", "100% é~/#"]⟩ }

/-- The first node of the document is the one of that name, and the `$id` is read back. In the
pointer of the name nothing looks like an escape. -/
theorem oddNames_accepted : ∃ validator node base,
    Validator.ofDocuments [oddNames] {} = .ok validator ∧ validator.roots = ["urn:odd"] ∧
      validator.bundle.registry.get? 0 = some node ∧ node.uri = (oddPlace base).key ∧
      base.text = "urn:odd" ∧ base.Rereads ∧ ¬ HasEscape (oddPlace base).pointer.text.toList ∧
      (oddPlace base).pointer.encoded = "/properties/100%25%20%C3%A9~0~1%23" := by
  have huris : (Validator.ofDocuments [oddNames] {}).toOption.map
      (fun validator => (validator.roots, (validator.bundle.registry.get? 0).map Node.uri)) =
        some (["urn:odd"], some ("urn:odd" ++ "#" ++ (oddPlace .anonymous).pointer.text)) := by
    decide +kernel
  have hread : (BaseUri.ofId "urn:odd").toOption.map BaseUri.text = some "urn:odd" := by
    decide +kernel
  have hpointer : ¬ HasEscape (oddPlace .anonymous).pointer.text.toList ∧
      (oddPlace .anonymous).pointer.encoded = "/properties/100%25%20%C3%A9~0~1%23" := by
    decide +kernel
  obtain ⟨validator, h, huris⟩ := exists_of_toOption_map huris
  obtain ⟨hroots, huri⟩ := Prod.mk.inj huris
  obtain ⟨node, hnode, huri⟩ := Option.map_eq_some_iff.mp huri
  obtain ⟨base, hof, htext⟩ := exists_of_toOption_map hread
  have hkey : node.uri = (oddPlace base).key := by
    rw [huri, ← htext]
    rfl
  exact ⟨validator, node, base, h, hroots, hnode, hkey, htext, .inr (htext ▸ hof), hpointer⟩

theorem uri_selects_node_odd : ∃ validator node base,
    Validator.ofDocuments [oddNames] {} = .ok validator ∧
      validator.bundle.registry.get? 0 = some node ∧ node.uri = (oddPlace base).key ∧
      Target.ofSelector node.uri = .ok (oddPlace base) ∧
      ∀ v, validator.validateAt node.uri v = validator.runAt (oddPlace base) 0 v := by
  obtain ⟨validator, node, base, h, _, hnode, huri, _, hbase, hno, _⟩ := oddNames_accepted
  obtain ⟨hread, hnodes⟩ := uri_selects_node [oddNames] {} validator h
  have hselects := (hread (oddPlace base) hbase).mpr hno
  obtain ⟨here, huri', hall⟩ := hnodes 0 node hnode
  -- the two places have the same key, so they are the same
  obtain rfl : oddPlace base = here := Target.key_injective (huri.symm.trans huri')
  exact ⟨validator, node, base, h, hnode, huri, huri ▸ hselects, hall hbase hno⟩

/-- A document in which a name has an escape, and the name that it is decoded to is there, too. -/
def escapedName : Value :=
  .object [("properties", .object [("%41", .object [("type", .string "string")]),
    ("A", .object [("type", .string "number")])])]

/-- The place of the name with the escape. -/
def escapedPlace : Target := { base := .anonymous, pointer := ⟨["properties", "%41"]⟩ }

/-- The URI of the node for the name with the escape selects the node for the other name, and the
answers differ. -/
theorem escape_selects_other : ∃ validator node,
    Validator.ofDocuments [escapedName] {} = .ok validator ∧
      validator.bundle.registry.get? 0 = some node ∧ node.uri = escapedPlace.key ∧
      validator.runAt escapedPlace 0 (.string "x") = .ok [] ∧
      validator.validateAt node.uri (.string "x") =
        .ok [⟨⟨[]⟩, ⟨["properties", "A", "type"]⟩, ""⟩] ∧
      Target.ofSelector node.uri ≠ .ok escapedPlace := by
  have hanswers : (Validator.ofDocuments [escapedName] {}).toOption.map (fun validator =>
      ((validator.bundle.registry.get? 0).map Node.uri,
        validator.runAt escapedPlace 0 (.string "x"),
        validator.validateAt escapedPlace.key (.string "x"))) =
      some (some escapedPlace.key, .ok [], .ok [⟨⟨[]⟩, ⟨["properties", "A", "type"]⟩, ""⟩]) := by
    decide +kernel
  obtain ⟨validator, h, hanswers⟩ := exists_of_toOption_map hanswers
  rw [Prod.mk.injEq, Prod.mk.injEq] at hanswers
  obtain ⟨huri, hrun, hselected⟩ := hanswers
  obtain ⟨node, hnode, huri⟩ := Option.map_eq_some_iff.mp huri
  have hother : Target.ofSelector escapedPlace.key ≠ .ok escapedPlace := by
    decide +kernel
  exact ⟨validator, node, h, hnode, huri, hrun, huri ▸ hselected, huri ▸ hother⟩

/-- **An encoded fragment reaches every node**, as a reference in its document and as a selector.
And the documents are used without a selector as the last of their URIs uses them. -/
theorem encoded_selects_node (documents : List Value) (config : Config) (validator : Validator)
    (h : Validator.ofDocuments documents config = .ok validator) :
    (∀ i node, validator.bundle.registry.get? i = some node →
      ∃ here : Target, node.uri = here.key ∧
        here.base.resolve ("#" ++ here.pointer.encoded) = .ok here ∧
        (here.base.Rereads →
          Target.ofSelector (here.base.text ++ "#" ++ here.pointer.encoded) = .ok here ∧
          ∀ v, validator.validateAt (here.base.text ++ "#" ++ here.pointer.encoded) v =
            validator.runAt here i v)) ∧
    (documents ≠ [] → ∃ base : BaseUri, validator.roots.getLast? = some base.text ∧
      (base.Rereads → ∀ v, validator.validate v = validator.validateAt base.text v)) := by
  obtain ⟨bundle, hbundle, hvalidator⟩ := bind_eq_ok h
  cases hvalidator
  obtain ⟨hf, _, hroots⟩ := Bundle.linked_of_ofDocuments (supports_true documents) hbundle
  constructor
  · intro i node hnode
    obtain ⟨here, huri, hi⟩ := hf.exists_place hnode
    refine ⟨here, huri, BaseUri.resolve_fragment.mpr here.pointer.decode_encoded, fun hbase => ?_⟩
    have hselects := Target.ofSelector_encoded hbase
    exact ⟨hselects, Validator.validateAt_of_selects hselects hi⟩
  · intro hne
    -- there is a root for each document
    have hrootsne : bundle.roots ≠ [] := by
      intro hnil
      rw [hnil, List.forall₂_nil_right_iff] at hroots
      exact hne hroots
    have hlast := List.getLast?_eq_some_getLast hrootsne
    obtain ⟨_, _, hfound⟩ := exists_of_mem_right hroots (List.mem_of_getLast? hlast)
    refine ⟨(bundle.roots.getLast hrootsne).base, ?_, fun hbase v => ?_⟩
    · unfold Validator.roots
      rw [List.getLast?_map, hlast]
      rfl
    · have hselects := Target.ofSelector_text hbase
      rw [Validator.validateAt_of_selects hselects hfound]
      unfold Validator.validate
      dsimp only
      rw [hlast]

theorem encoded_selects_node_odd : ∃ validator base,
    Validator.ofDocuments [oddNames] {} = .ok validator ∧ [oddNames] ≠ [] ∧
      validator.roots.getLast? = some "urn:odd" ∧ base.text = "urn:odd" ∧
      base.resolve "#/properties/100%25%20%C3%A9~0~1%23" = .ok (oddPlace base) ∧
      (∀ v, validator.validateAt "urn:odd#/properties/100%25%20%C3%A9~0~1%23" v =
        validator.runAt (oddPlace base) 0 v) ∧
      ∀ v, validator.validate v = validator.validateAt "urn:odd" v := by
  obtain ⟨validator, node, base, h, hroots, hnode, huri, htext, hbase, _, hencoded⟩ :=
    oddNames_accepted
  obtain ⟨hnodes, hlast⟩ := encoded_selects_node [oddNames] {} validator h
  obtain ⟨here, huri', hresolve, hselects⟩ := hnodes 0 node hnode
  obtain rfl : oddPlace base = here := Target.key_injective (huri.symm.trans huri')
  obtain ⟨root, hroot, hvalidate⟩ := hlast (List.cons_ne_nil _ _)
  have hlasturi : validator.roots.getLast? = some "urn:odd" := by
    rw [hroots]
    rfl
  -- the last URI is the one of the base, so it is the base of the last document
  obtain rfl : root = base := by
    rw [hlasturi, Option.some.injEq] at hroot
    exact BaseUri.text_injective (hroot.symm.trans htext.symm)
  rw [hencoded] at hresolve hselects
  have hat := (hselects hbase).2
  have hwhole := hvalidate hbase
  rw [show (oddPlace root).base = root from rfl, htext] at hat
  rw [htext] at hwhole
  exact ⟨validator, root, h, List.cons_ne_nil _ _, hlasturi, htext, hresolve, hat, hwhole⟩

end JsonSchema
