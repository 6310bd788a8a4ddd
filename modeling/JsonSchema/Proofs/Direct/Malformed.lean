import JsonSchema.Proofs.Compilation.Grammar
import JsonSchema.Proofs.Compilation.Misfits
import JsonSchema.Proofs.Compilation.Passes
import JsonSchema.Proofs.Direct.Again

/-!
# Where malformed documents are malformed

If documents are rejected because one of them is malformed, the error names a place in it. There is
a value at the place, and it breaks the rule of the place. Which rule that is can be told from the
documents alone: at some places a schema has to stand, namely at the roots, inside other schemas,
and wherever a reference leads; and the keywords of such a schema must have their forms.

Two errors are not of this kind. The `$id` of a document is looked at before the document has a
base; and a document may be as it should, and yet have the base of another one that came before.
-/

namespace JsonSchema

open Compile

namespace Direct

/-! ## Places where a schema has to stand -/

/-- A schema has to stand at the place in one of the documents. References lead to the first
document with a base, but the others with the same base are compiled as well. -/
inductive Needs (documents : List Value) : Value → Target → Prop
  | root {document : Value} {base : BaseUri} : document ∈ documents →
      documentBase .anonymous document = .ok base →
      Needs documents document { base, pointer := .root }
  | inside {document : Value} {here : Target} {members : Members Value} {p : List String × Value} :
      Needs documents document here →
      Pointer.walk here.pointer.tokens document = some (.object members) →
      p ∈ Subschemas.inside members → Needs documents document (here.below p.1)
  | target {document owner : Value} {here target : Target} {members : Members Value} :
      Needs documents document here →
      Pointer.walk here.pointer.tokens document = some (.object members) →
      RefersTo here.base members target → documentAt documents target.base = some owner →
      Needs documents owner target

/-- What stands at such a place. -/
structure NeededAt (documents : List Value) (document : Value) (here : Target) (v : Value) :
    Prop where
  needs : Needs documents document here
  walk : Pointer.walk here.pointer.tokens document = some v

variable {documents : List Value} {document : Value} {here : Target} {v : Value}

theorem Needs.mem_and_base (h : Needs documents document here) :
    document ∈ documents ∧ documentBase .anonymous document = .ok here.base := by
  induction h with
  | root hmem hbase => exact ⟨hmem, hbase⟩
  | inside _ _ _ ih => exact ih
  | target _ _ _ howner _ => exact mem_of_documentAt howner

theorem NeededAt.distinct (hd : ∀ document ∈ documents, document.Distinct)
    (h : NeededAt documents document here v) : v.Distinct :=
  (Pointer.walk_inside h.walk).2 (hd document h.needs.mem_and_base.1)

theorem NeededAt.below (h : NeededAt documents document here v) (way : List String) :
    Pointer.walk (here.below way).pointer.tokens document = Pointer.walk way v := by
  show Pointer.walk (here.pointer.tokens ++ way) document = _
  rw [Pointer.walk_append, h.walk]
  rfl

/-- What has to be a schema somewhere in the documents. -/
def Needed (documents : List Value) (here : Target) (v : Value) : Prop :=
  ∃ document, NeededAt documents document here v

theorem needed_root {base : BaseUri} (hmem : document ∈ documents)
    (hbase : documentBase .anonymous document = .ok base) :
    Needed documents { base, pointer := .root } document :=
  ⟨document, .root hmem hbase, rfl⟩

theorem closed_needed (hd : ∀ document ∈ documents, document.Distinct) :
    ClosedInside (Needed documents) := by
  intro here members ⟨document, h⟩ p hp
  obtain ⟨q, hq, rfl⟩ := List.mem_map.mp hp
  refine ⟨document, .inside h.needs h.walk hq, ?_⟩
  rw [h.below]
  exact (Subschemas.reached_inside (h.distinct hd) q hq).2

/-- **Only what has to be a schema is ever compiled.** -/
theorem supports_needed (hd : ∀ document ∈ documents, document.Distinct) :
    Supports documents (Needed documents) where
  closed := closed_needed hd
  root := by
    intro base document hdocument
    obtain ⟨hmem, hbase⟩ := mem_of_documentAt hdocument
    exact needed_root hmem hbase
  target := by
    intro here members target v ⟨document, h⟩ hrefers hv
    obtain ⟨owner, howner, hwalk⟩ := Option.bind_eq_some_iff.mp hv
    exact ⟨owner, .target h.needs h.walk hrefers howner, hwalk⟩
  again := by
    intro base owner document r _ _ hmem hbase hr _
    exact within_keepsFaithful (closed_needed hd) _ _ _ _ (needed_root hmem hbase) hr

/-! ## What is to blame -/

/-- What is to blame stands in the document. -/
theorem Misfit.walk {base : BaseUri} {members : Members Value} {way : List String}
    (h : Misfit base members way v) (hd : (Value.object members).Distinct) :
    Pointer.walk way (.object members) = some v := by
  cases h with
  | keyword _ hv _ =>
      rw [Pointer.walk_singleton]
      exact hv
  | pattern hentries hv _ => exact Subschemas.walk_member hd hentries hv
  | dependency hentries hv _ => exact Subschemas.walk_member hd hentries hv

/-- The value at a place in a document is to blame for the error of the documents. -/
inductive Faulty (documents : List Value) (document : Value) : Target → Value → Prop
  /-- It breaks the rule of its place. -/
  | breaks {place : Target} {v : Value} : documentBase .anonymous document = .ok place.base →
      Breaks (NeededAt documents document) place v → Faulty documents document place v
  /-- It is an `$id` that gives no base. -/
  | id {members : Members Value} {v : Value} : document = .object members →
      members.get? "$id" = some v →
      (∀ id base, v = .string id → BaseUri.ofId id ≠ .ok base) →
      Faulty documents document { base := .anonymous, pointer := ⟨["$id"]⟩ } v
  /-- It is a document that differs from the first one with the same base. -/
  | conflict {base : BaseUri} {owner : Value} : documentBase .anonymous document = .ok base →
      documentAt documents base = some owner → owner.same document = false →
      Faulty documents document { base, pointer := .root } document

/-- The error names a place in one of the documents and the value there. -/
def Explained (documents : List Value) (e : SchemaError) : Prop :=
  ∃ document ∈ documents, ∃ place v flaw, Faulty documents document place v ∧
    Pointer.walk place.pointer.tokens document = some v ∧
    e = .malformed (place.base.text ++ "#" ++ place.pointer.text) flaw

/-- The root of a document with a URI is an object. -/
theorem shownKey_of_notSchema (h : NeededAt documents document here v) (hv : v.isSchema = false) :
    shownKey here = here.base.text ++ "#" ++ here.pointer.text := by
  cases hroot : here.pointer.isRoot with
  | false => rw [shownKey_of_not_isRoot hroot, key_of_not_isRoot hroot]
  | true =>
      have htokens : here.pointer.tokens = [] := List.isEmpty_iff.mp hroot
      have hwalk := h.walk
      have hbase := h.needs.mem_and_base.2
      rw [htokens] at hwalk
      cases hwalk
      have hanonymous : here.base = .anonymous := by
        cases document with
        | object members => exact nomatch hv
        | _ => exact (Except.ok.inj hbase).symm
      obtain ⟨base, ⟨tokens⟩⟩ := here
      cases hanonymous
      cases htokens
      decide +kernel

/-- What is to blame for a compilation explains its error. -/
theorem explained_of_blames (hd : ∀ document ∈ documents, document.Distinct) {e : SchemaError}
    (h : Blames (Needed documents) e) : Explained documents e := by
  obtain ⟨place, v, flaw, hbreaks, rfl⟩ := h
  cases hbreaks with
  | notSchema hneeded hv =>
      obtain ⟨document, h⟩ := hneeded
      obtain ⟨hmem, hbase⟩ := h.needs.mem_and_base
      refine ⟨document, hmem, place, v, flaw, .breaks hbase (.notSchema h hv), h.walk, ?_⟩
      rw [shownKey_of_notSchema h hv]
  | @misfit here members way _ hneeded hmisfit =>
      obtain ⟨document, h⟩ := hneeded
      obtain ⟨hmem, hbase⟩ := h.needs.mem_and_base
      have hroot := isRoot_below here hmisfit.ne_nil
      refine ⟨document, hmem, here.below way, v, flaw, .breaks hbase (.misfit h hmisfit), ?_, ?_⟩
      · rw [h.below]
        exact Misfit.walk hmisfit (h.distinct hd)
      · rw [shownKey_of_not_isRoot hroot, key_of_not_isRoot hroot]

/-- A document without a base has an `$id` that gives none. -/
theorem explained_of_documentBase (hmem : document ∈ documents) {e : SchemaError}
    (h : documentBase .anonymous document = .error e) : Explained documents e := by
  cases document with
  | object members =>
      have hfaulty : ∀ (v : Value) (flaw : Flaw), Members.get? members "$id" = some v →
          (∀ id base, v = .string id → BaseUri.ofId id ≠ .ok base) →
          Explained documents (flawed { base := .anonymous, pointer := .root } "$id" flaw) := by
        intro v flaw hv hid
        refine ⟨_, hmem, _, v, flaw, .id rfl hv hid, ?_, ?_⟩
        · rw [Pointer.walk_singleton]
          exact hv
        · exact congrArg (SchemaError.malformed · flaw) (key_of_not_isRoot rfl)
      rw [documentBase_object] at h
      cases hv : Members.get? members "$id" with
      | none => rw [hv] at h; exact nomatch h
      | some v =>
          rw [hv] at h
          cases v with
          | string id =>
              dsimp only at h
              cases hid : BaseUri.ofId id with
              | ok base => rw [hid] at h; exact nomatch h
              | error cause =>
                  rw [hid] at h
                  cases h
                  refine hfaulty _ _ hv fun id' base heq hok => ?_
                  cases heq
                  rw [hid] at hok
                  exact nomatch hok
          | _ => cases h; exact hfaulty _ _ hv fun id base heq => nomatch heq
  | _ => exact nomatch h

end Direct

open Direct

namespace Bundle

variable {documents : List Value} {document : Value} {kept : Members Value} {e : SchemaError}

/-! ## Compiling the documents -/

theorem explained_of_within (hd : ∀ document ∈ documents, document.Distinct) {here : Target}
    {v : Value} (hneeded : Needed documents here v) {r r' : Registry}
    (h : (within v.height here v).run r = (.error e, r')) : Explained documents e :=
  explained_of_blames hd
    (within_errsOnly (closed_needed hd) hneeded (Nat.le_refl _) r e (congrArg Prod.fst h))

/-- One more document fails because of what stands in it, or because it comes too late. -/
theorem explained_of_add (hd : ∀ document ∈ documents, document.Distinct)
    {processed rest : List Value} (hsplit : documents = processed ++ document :: rest) {s : Roots}
    (hinv : RootsOf (Needed documents) processed s) (h : s.add document = .error e) :
    Explained documents e := by
  have hmem : document ∈ documents := by
    rw [hsplit]
    exact List.mem_append_right _ List.mem_cons_self
  unfold Roots.add at h
  rw [run_compileRoot] at h
  cases hbase : documentBase .anonymous document with
  | error e' =>
      rw [hbase] at h
      cases h
      exact explained_of_documentBase hmem hbase
  | ok base =>
      rw [hbase] at h
      dsimp only at h
      rcases hrun : (within document.height { base, pointer := .root } document).run s.registry with
        ⟨answer, registry⟩
      rw [hrun] at h
      cases answer with
      | error e' =>
          cases h
          exact explained_of_within hd (needed_root hmem hbase) hrun
      | ok index =>
          dsimp only at h
          rw [hinv.owner] at h
          cases howner : documentAt processed base with
          | none => rw [howner] at h; exact nomatch h
          | some owner =>
              rw [howner] at h
              dsimp only at h
              split at h
              · exact nomatch h
              · rename_i hsame
                cases h
                have hfirst : documentAt documents base = some owner := by
                  rw [hsplit, documentAt_append, howner]
                  rfl
                refine ⟨document, hmem, _, document, .duplicateDocument,
                  .conflict hbase hfirst (Bool.eq_false_iff.mpr hsame), rfl, ?_⟩
                show _ = SchemaError.malformed (base.text ++ "#" ++ "") _
                rw [String.append_empty]

theorem explained_of_compileRoots (hd : ∀ document ∈ documents, document.Distinct)
    (h : compileRoots documents = .error e) : Explained documents e := by
  have hfold : ∀ (rest processed : List Value) (s : Roots), documents = processed ++ rest →
      RootsOf (Needed documents) processed s → rest.foldlM Roots.add s = .error e →
      Explained documents e := by
    intro rest
    -- over the documents that are left, as for what is known after them
    induction rest with
    | nil => exact fun _ _ _ _ herror => nomatch herror
    | cons document rest ih =>
        intro processed s hsplit hinv herror
        rw [List.foldlM_cons] at herror
        rcases bind_eq_error herror with hadd | ⟨s', hadd, herror⟩
        · exact explained_of_add hd hsplit hinv hadd
        · exact ih (processed ++ [document]) s' (by rw [hsplit, List.append_assoc]; rfl)
            (hinv.add (supports_needed hd) hsplit hadd) herror
  exact hfold documents [] _ rfl ⟨Registry.faithful_empty _, fun _ => rfl, .nil⟩ h

/-! ## Linking -/

/-- Dealing with a target fails because of what stands there. -/
theorem explained_of_attempt (hd : ∀ document ∈ documents, document.Distinct)
    (howner : ∀ base : BaseUri, kept.get? base.text = documentAt documents base) {target : Target}
    (hsought : Registry.Sought (Needed documents) target) {s : Linking}
    (h : s.attempt kept target = .error e) : Explained documents e := by
  unfold Linking.attempt at h
  split at h
  · exact nomatch h
  · dsimp only at h
    rw [howner] at h
    cases hdocument : documentAt documents target.base with
    | none => rw [hdocument] at h; exact nomatch h
    | some document =>
        rw [hdocument] at h
        dsimp only at h
        rw [Pointer.resolve_eq_walk] at h
        cases hwalk : Pointer.walk target.pointer.tokens document with
        | none => rw [hwalk] at h; exact nomatch h
        | some v =>
            rw [hwalk] at h
            dsimp only at h
            rw [run_compileAt (baseOf_of_documentAt hdocument hwalk)] at h
            -- a schema refers to the target, so that a schema has to stand there
            obtain ⟨here, members, ⟨document', hneeded⟩, hrefers⟩ := hsought
            have htarget : Needed documents target v :=
              ⟨document, .target hneeded.needs hneeded.walk hrefers hdocument, hwalk⟩
            rcases hrun : (within v.height target v).run s.registry with ⟨answer, registry⟩
            rw [hrun] at h
            cases answer with
            | error e' => cases h; exact explained_of_within hd htarget hrun
            | ok i => exact nomatch h

theorem explained_of_attempts (hd : ∀ document ∈ documents, document.Distinct)
    (howner : ∀ base : BaseUri, kept.get? base.text = documentAt documents base)
    {targets : List Target}
    (hsought : ∀ target ∈ targets, Registry.Sought (Needed documents) target) {s : Linking}
    (h : targets.foldlM (Linking.attempt kept) s = .error e) : Explained documents e := by
  induction targets generalizing s with
  | nil => exact nomatch h
  | cons target rest ih =>
      rw [List.forall_mem_cons] at hsought
      rw [List.foldlM_cons] at h
      rcases bind_eq_error h with h | ⟨s', _, h⟩
      · exact explained_of_attempt hd howner hsought.1 h
      · exact ih hsought.2 h

theorem explained_of_passes (hd : ∀ document ∈ documents, document.Distinct)
    (howner : ∀ base : BaseUri, kept.get? base.text = documentAt documents base) {bound : Nat}
    {s : Linking} (hgood : Good documents (Needed documents) s)
    (h : Linking.passes kept bound s = .error e) : Explained documents e := by
  induction bound generalizing s with
  | zero => exact nomatch h
  | succ bound ih =>
      rw [passes_succ] at h
      split at h
      · exact nomatch h
      · rcases bind_eq_error h with h | ⟨s', hattempts, h⟩
        · exact explained_of_attempts hd howner (fun _ ht => hgood.faithful.sought ht) h
        · have hpass := advance_pass (supports_needed hd) howner hgood hattempts
          split at h
          · exact ih hpass.good h
          · exact nomatch h

/-- **A malformed document is malformed at the place that the error names.** The location consists
of the base of one of the documents, a `#` and the text of a pointer, and the pointer leads to a
value in this document. Either the value breaks the rule of its place, or it is an `$id` that gives
no base, or it is a document that differs from the first one with the same base. -/
theorem ofDocuments_malformed (hd : ∀ document ∈ documents, document.Distinct) {location : String}
    {flaw : Flaw} (h : ofDocuments documents = .error (.malformed location flaw)) :
    ∃ document ∈ documents, ∃ place v, Faulty documents document place v ∧
      place.pointer.resolve document = some v ∧
      location = place.base.text ++ "#" ++ place.pointer.text := by
  have hexplained : Explained documents (.malformed location flaw) := by
    unfold ofDocuments at h
    rcases bind_eq_error h with h | ⟨s, hroots, h⟩
    · exact explained_of_compileRoots hd h
    · have hinv := rootsOf_compileRoots (supports_needed hd) hroots
      rcases bind_eq_error h with h | ⟨linked, _, h⟩
      · exact explained_of_passes hd hinv.owner (good_start hinv) h
      · split at h <;> exact nomatch h
  obtain ⟨document, hmem, place, v, _, hfaulty, hwalk, he⟩ := hexplained
  refine ⟨document, hmem, place, v, hfaulty, ?_, (SchemaError.malformed.inj he).1⟩
  rw [Pointer.resolve_eq_walk]
  exact hwalk

/-- A reference into another document. -/
def asking : Value :=
  .object [("$id", .string "urn:a"), ("$ref", .string "urn:b#/definitions/x")]

/-- A schema below `definitions` with a misfit further inside. -/
def misshapen : Value :=
  .object [("$id", .string "urn:b"), ("definitions", .object [("x", .object [
    ("items", .array [.bool true, .object [("minimum", .string "low")]])])])]

/-- The schema below `definitions` is compiled for the reference only. -/
theorem ofDocuments_malformed_misshapen :
    ofDocuments [asking, misshapen] =
      .error (.malformed "urn:b#/definitions/x/items/1/minimum" .notNumber) ∧
    ∃ document ∈ [asking, misshapen], ∃ place v, Faulty [asking, misshapen] document place v ∧
      place.pointer.resolve document = some v ∧
      "urn:b#/definitions/x/items/1/minimum" = place.base.text ++ "#" ++ place.pointer.text := by
  have hd : ∀ document ∈ [asking, misshapen], document.Distinct := by
    simp [asking, misshapen, Members.Distinct, Value.Distinct, Value.DistinctItems,
      Value.DistinctMembers]
  have herror : ofDocuments [asking, misshapen] =
      .error (.malformed "urn:b#/definitions/x/items/1/minimum" .notNumber) := by
    have hmapped : (ofDocuments [asking, misshapen]).map (fun _ => ()) =
        .error (.malformed "urn:b#/definitions/x/items/1/minimum" .notNumber) := by
      decide +kernel
    cases h : ofDocuments [asking, misshapen] with
    | ok bundle => rw [h] at hmapped; cases hmapped
    | error e => rw [h] at hmapped; cases hmapped; rfl
  exact ⟨herror, ofDocuments_malformed hd herror⟩

end Bundle

end JsonSchema
