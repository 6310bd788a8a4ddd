import JsonSchema.Proofs.Compilation.Roots
import JsonSchema.Proofs.Direct.Present

/-!
# The grammar of schemas

A schema is a truth value, or an object whose keywords have their forms and inside which everything
that must be a schema is one. References are read against the base of the document, so the base is
part of the notion, and at the root of a document it is given by the `$id`.

Compiling a document succeeds exactly if the document is a schema in this sense. What the registry
holds already has no influence on it: it decides which nodes are added, and not whether there is an
error.
-/

namespace JsonSchema

open Subschemas

namespace Value

/-- The value is a schema all the way down, in a document with the given base. -/
inductive WellFormed (base : BaseUri) : Value → Prop
  /-- Truth values are schemas. -/
  | bool (b : Bool) : WellFormed base (.bool b)
  /-- An object is one if its keywords have their forms and what is inside it are schemas. -/
  | object {members : Members Value} :
      (∀ p ∈ grammar base, (members.get? p.1).all p.2 = true) →
      (∀ v, Inside members v → WellFormed base v) → WellFormed base (.object members)

/-- The base that a schema has as a document. -/
inductive HasBase : Value → BaseUri → Prop
  /-- A truth value names no base. -/
  | bool (b : Bool) : HasBase (.bool b) .anonymous
  /-- Neither does an object without `$id`. -/
  | unnamed {members : Members Value} : members.get? "$id" = none →
      HasBase (.object members) .anonymous
  /-- The `$id` must be a string that can be read as a base. -/
  | named {members : Members Value} {id : String} {base : BaseUri} :
      members.get? "$id" = some (.string id) → BaseUri.ofId id = .ok base →
      HasBase (.object members) base

/-- The value is a schema document. -/
def IsDocument (document : Value) : Prop :=
  ∃ base, document.HasBase base ∧ document.WellFormed base

variable {base : BaseUri}

theorem WellFormed.formed {v : Value} (h : v.WellFormed base) : v.formed base = true := by
  cases h with
  | bool b => rfl
  | object hforms _ => exact formed_object.mpr hforms

theorem WellFormed.of_inside {members : Members Value} {v : Value}
    (h : WellFormed base (.object members)) (hv : Inside members v) : v.WellFormed base := by
  cases h with
  | object _ hinside => exact hinside v hv

theorem WellFormed.isSchema {v : Value} (h : v.WellFormed base) : v.isSchema = true := by
  cases h <;> rfl

end Value

namespace Compile

open Value

/-- What has been compiled with everything inside it is well-formed. -/
theorem Present.wellFormed {r : Registry} {here : Target} {v : Value} (h : Present r here v) :
    v.WellFormed here.base := by
  induction h with
  | @intro here v _ hformed _ ih =>
      cases v with
      | bool b => exact .bool b
      | object members =>
          refine .object (formed_object.mp hformed) fun w hw => ?_
          obtain ⟨way, hway⟩ := exists_mem_inside.mpr hw
          -- the schemas inside stand below, in the same document
          exact ih members rfl (here.below way, w) (List.mem_map_of_mem hway)
      | _ => cases hformed

/-- **A schema at a place compiles exactly if it is well-formed**, whatever the registry. -/
theorem within_isOk_iff (here : Target) (v : Value) (r : Registry) :
    ((within v.height here v).run r).1.isOk = true ↔ v.WellFormed here.base := by
  constructor
  · intro hok
    obtain ⟨i, hi⟩ := exists_of_isOk hok
    exact ((within_leaves v.height here v r).present i hi).1.wellFormed
  · intro hv
    have hclosed : ClosedInside fun here v => v.WellFormed here.base := by
      intro here members hmembers p hp
      obtain ⟨⟨way, w⟩, hw, rfl⟩ := List.mem_map.mp hp
      exact WellFormed.of_inside hmembers (exists_mem_inside.mp ⟨way, hw⟩)
    have hsucceeds : Succeeds (within v.height here v) :=
      within_succeeds hclosed (fun _ _ h => h.formed) hv (Nat.le_refl _)
    obtain ⟨i, r', hrun⟩ := hsucceeds r
    rw [hrun]
    rfl

/-- What the `$id` of a document says of its base. -/
theorem documentBase_object (members : Members Value) :
    documentBase .anonymous (.object members) = match members.get? "$id" with
      | none => .ok .anonymous
      | some (.string id) => match BaseUri.ofId id with
        | .ok base => .ok base
        | .error cause =>
            .error (flawed { base := .anonymous, pointer := .root } "$id" (.uri cause))
      | some _ => .error (flawed { base := .anonymous, pointer := .root } "$id" .notString) := by
  unfold documentBase optional
  dsimp only
  generalize members.get? "$id" = found
  cases found with
  | none => rfl
  | some v =>
      cases v with
      | string id =>
          dsimp only [asString, Bind.bind, Except.bind]
          cases BaseUri.ofId id <;> rfl
      | _ => rfl

/-- The base of a schema document is the one that is read. -/
theorem hasBase_iff {document : Value} (h : document.isSchema = true) (base : BaseUri) :
    document.HasBase base ↔ documentBase .anonymous document = .ok base := by
  cases document with
  | bool b =>
      refine ⟨fun hbase => ?_, fun hbase => ?_⟩
      · cases hbase
        rfl
      · cases hbase
        exact .bool b
  | object members =>
      rw [documentBase_object]
      constructor
      · intro hbase
        cases hbase with
        | unnamed hid => rw [hid]
        | named hid hof => rw [hid]; dsimp only; rw [hof]
      · intro hbase
        split at hbase
        · rename_i hid
          cases hbase
          exact .unnamed hid
        · rename_i id hid
          cases hof : BaseUri.ofId id with
          | ok own =>
              rw [hof] at hbase
              cases hbase
              exact .named hid hof
          | error cause =>
              rw [hof] at hbase
              cases hbase
        · cases hbase
  | _ => cases h

end Compile

open Compile

/-- **The documents that compile are the schemas.** -/
theorem compileRoot_isOk_iff (r : Registry) (document : Value) :
    ((compileRoot document).run r).1.isOk = true ↔ document.IsDocument := by
  have hanswer : ((compileRoot document).run r).1.isOk = true ↔
      ∃ base, documentBase .anonymous document = .ok base ∧
        ((within document.height { base, pointer := .root } document).run r).1.isOk = true := by
    rw [run_compileRoot]
    cases documentBase .anonymous document with
    | error e => simp [Except.isOk, Except.toBool]
    | ok base =>
        rcases hrun : (within document.height { base, pointer := .root } document).run r with
          ⟨a, r'⟩
        cases a <;> simp [hrun, Except.isOk, Except.toBool]
  rw [hanswer]
  constructor
  · rintro ⟨base, hbase, hok⟩
    have hwell := (within_isOk_iff { base, pointer := .root } document r).mp hok
    exact ⟨base, (hasBase_iff hwell.isSchema base).mpr hbase, hwell⟩
  · rintro ⟨base, hbase, hwell⟩
    have hread := (hasBase_iff hwell.isSchema base).mp hbase
    exact ⟨base, hread, (within_isOk_iff { base, pointer := .root } document r).mpr hwell⟩

end JsonSchema
