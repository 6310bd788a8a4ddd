import JsonSchema.Proofs.Addressing.Key
import JsonSchema.Proofs.Addressing.Ways
import JsonSchema.Schema.Compile

/-!
# Places in documents

A place is found in the documents without any registry: the base tells the document, which is the
first one with this base if there are several, and the pointer leads to the value in it.
-/

namespace JsonSchema.Direct

/-- Whether the document has the base. -/
def hasBase (base : BaseUri) (document : Value) : Bool :=
  match Compile.documentBase .anonymous document with
  | .ok own => own = base
  | .error _ => false

/-- The document with a base. -/
def documentAt (documents : List Value) (base : BaseUri) : Option Value :=
  documents.find? (hasBase base)

/-- The value at a place. -/
def valueAt (documents : List Value) (place : Target) : Option Value :=
  (documentAt documents place.base).bind (Pointer.walk place.pointer.tokens)

/-- The `$ref` of a schema in a document with the base leads to the target. -/
def RefersTo (base : BaseUri) (members : Members Value) (target : Target) : Prop :=
  ∃ text, members.get? "$ref" = some (.string text) ∧ base.resolve text = .ok target

/-- What is reported of a target that leads nowhere: the URI of the document if that is not at hand,
and else the key of the target. -/
def absent (documents : List Value) (target : Target) : Option String :=
  match documentAt documents target.base with
  | none => some target.base.text
  | some document =>
    match Pointer.walk target.pointer.tokens document with
    | none => some target.key
    | some _ => none

theorem absent_eq_none {documents : List Value} {target : Target} :
    absent documents target = none ↔ ∃ v, valueAt documents target = some v := by
  unfold absent valueAt
  cases documentAt documents target.base with
  | none => simp
  | some document =>
      dsimp only [Option.bind_some]
      cases Pointer.walk target.pointer.tokens document <;> simp

/-- Either there is no document with the base, or nothing in it at the place. -/
theorem absent_eq_some {documents : List Value} {target : Target} {u : String} :
    absent documents target = some u ↔
      (documentAt documents target.base = none ∧ u = target.base.text) ∨
        (documentAt documents target.base ≠ none ∧ valueAt documents target = none ∧
          u = target.key) := by
  unfold absent valueAt
  cases documentAt documents target.base with
  | none => simp [eq_comm]
  | some document =>
      dsimp only [Option.bind_some]
      cases Pointer.walk target.pointer.tokens document <;> simp [eq_comm]

theorem hasBase_iff {base : BaseUri} {document : Value} :
    hasBase base document = true ↔ Compile.documentBase .anonymous document = .ok base := by
  unfold hasBase
  cases Compile.documentBase .anonymous document with
  | ok own => simp
  | error e => simp

theorem mem_of_documentAt {documents : List Value} {base : BaseUri} {document : Value}
    (h : documentAt documents base = some document) :
    document ∈ documents ∧ Compile.documentBase .anonymous document = .ok base :=
  ⟨List.mem_of_find?_eq_some h, hasBase_iff.mp (List.find?_some h)⟩

theorem valueAt_root {documents : List Value} {base : BaseUri} {document : Value}
    (h : documentAt documents base = some document) :
    valueAt documents { base, pointer := .root } = some document := by
  unfold valueAt
  rw [h]
  rfl

/-- The value further down. -/
theorem valueAt_below {documents : List Value} {here : Target} {v : Value}
    (h : valueAt documents here = some v) (tokens : List String) :
    valueAt documents (here.below tokens) = Pointer.walk tokens v := by
  unfold valueAt at h ⊢
  obtain ⟨document, hdocument, hwalk⟩ := Option.bind_eq_some_iff.mp h
  show (documentAt documents here.base).bind _ = _
  rw [hdocument]
  show Pointer.walk (here.pointer.tokens ++ tokens) document = _
  rw [Pointer.walk_append, hwalk]
  rfl

/-! ## The base of a document -/

/-- A keyword that may be absent gives nothing if it is, and else what its value is read as. -/
theorem optional_eq_ok {α : Type} {members : Members Value} {keyword : String}
    {read : Value → Except Flaw α} {here : Target} {o : Option α} :
    Compile.optional members keyword read here = .ok o ↔
      Option.Rel (fun v a => read v = .ok a) (members.get? keyword) o := by
  unfold Compile.optional
  cases members.get? keyword with
  | none =>
      refine ⟨fun h => ?_, fun h => ?_⟩
      · cases h; exact .none
      · cases h; rfl
  | some v =>
      dsimp only
      refine ⟨fun h => ?_, fun h => ?_⟩
      · split at h
        · rename_i a ha
          cases h
          exact .some ha
        · cases h
      · cases h with | some ha => rw [ha]

/-- Where the keyword stands matters only to errors. -/
theorem optional_of_ok {α : Type} {members : Members Value} {keyword : String}
    {read : Value → Except Flaw α} {here : Target} {o : Option α}
    (h : Compile.optional members keyword read here = .ok o) (there : Target) :
    Compile.optional members keyword read there = .ok o :=
  optional_eq_ok.mpr (optional_eq_ok.mp h)

/-- A document has the base that it is known under, whatever else it might have been called. -/
theorem documentBase_of_text {document : Value} {base base' : BaseUri}
    (h : Compile.documentBase .anonymous document = .ok base) (htext : base'.text = base.text) :
    Compile.documentBase base' document = .ok base' := by
  have hbase : base' = base := BaseUri.text_injective htext
  cases document with
  | object members =>
      obtain ⟨own, hown, hget⟩ := bind_eq_ok h
      show (Compile.optional members "$id" _ _ >>= fun own => .ok (own.getD base')) = _
      rw [optional_of_ok hown]
      cases hget
      -- without an `$id` it takes the base it is given, and with one it has that one already
      cases own with
      | none => rfl
      | some b => exact congrArg Except.ok hbase.symm
  | _ => rfl

end JsonSchema.Direct
