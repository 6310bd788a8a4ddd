import JsonSchema.Proofs.Basic
import JsonSchema.Schema.Reading

/-!
# What readings ask for and what they yield

Two things are known of a reading before it is carried out. `Reading.Asks m l` says that `m` asks
for the schemas in `l`, in this order, unless it fails on the way; what it asks for does not depend
on the indices that it is given. `Reading.Yields index m a` says that `m` ends with `a` when the
places have the indices that `index` relates them to.

`Reading.EndsIff m P` says that `m` ends with something exactly if `P` holds, whatever indices it is
given; and `Reading.FailsOnly Q m` says what is known of the error if it does not.

Carrying out a reading is then one induction, for all keywords at once.
-/

namespace JsonSchema.Reading

variable {α β : Type}

instance : LawfulMonad Reading :=
  LawfulMonad.mk' Reading
    (fun m => by
      show bind m (fun a => done (id a)) = m
      induction m with
      | done a => rfl
      | failed e => rfl
      | needs place v next ih => exact congrArg (needs place v) (funext ih))
    (fun _ _ => rfl)
    (fun m f g => by
      show bind (bind m f) g = bind m fun a => bind (f a) g
      induction m with
      | done a => rfl
      | failed e => rfl
      | needs place v next ih => exact congrArg (needs place v) (funext ih))

/-! ## Asking -/

/-- The reading asks for these schemas in turn, unless it fails on the way. -/
def Asks : Reading α → List (Target × Value) → Prop
  | done _, l => l = []
  | failed _, _ => True
  | needs place v next, l => ∃ rest, l = (place, v) :: rest ∧ ∀ i, (next i).Asks rest

theorem asks_pure (a : α) : (pure a : Reading α).Asks [] := rfl

theorem asks_failed (e : SchemaError) (l : List (Target × Value)) :
    (failed e : Reading α).Asks l := trivial

theorem asks_lift (r : Except SchemaError α) : (liftM r : Reading α).Asks [] := by
  cases r with
  | ok a => rfl
  | error e => trivial

theorem asks_sub (place : Target) (v : Value) : (sub place v).Asks [(place, v)] :=
  ⟨[], rfl, fun _ => rfl⟩

/-- One reading after another asks for the schemas of both. -/
theorem Asks.bind {m : Reading α} {f : α → Reading β} {l l' : List (Target × Value)}
    (hm : m.Asks l) (hf : ∀ a, (f a).Asks l') : (m >>= f).Asks (l ++ l') := by
  induction m generalizing l with
  | done a =>
      have hl : l = [] := hm
      rw [hl]
      exact hf a
  | failed e => trivial
  | needs place v next ih =>
      -- whatever index is given for the first schema, the rest asks for the same
      obtain ⟨rest, rfl, hrest⟩ := hm
      exact ⟨rest ++ l', rfl, fun i => ih i (hrest i)⟩

theorem Asks.map {m : Reading α} {l : List (Target × Value)} (hm : m.Asks l) (f : α → β) :
    (m >>= fun a => pure (f a)).Asks l := by
  have h := hm.bind fun a => asks_pure (f a)
  rwa [List.append_nil] at h

theorem asks_mapM {γ : Type} {f : γ → Reading α} {asked : γ → List (Target × Value)}
    (h : ∀ c, (f c).Asks (asked c)) (cs : List γ) : (cs.mapM f).Asks (cs.flatMap asked) := by
  induction cs with
  | nil => rw [List.mapM_nil]; exact asks_pure []
  | cons c rest ih =>
      rw [List.mapM_cons, List.flatMap_cons]
      exact (h c).bind fun a => ih.map (a :: ·)

/-! ## Yielding -/

/-- The reading ends with `a` when the places have their indices. -/
inductive Yields (index : Target → Nat → Prop) : Reading α → α → Prop
  /-- Nothing is left to read. -/
  | done (a : α) : Yields index (done a) a
  /-- The place has the index. -/
  | needs {place : Target} {v : Value} {next : Nat → Reading α} {i : Nat} {a : α} :
      index place i → Yields index (next i) a → Yields index (needs place v next) a

variable {index : Target → Nat → Prop}

@[simp] theorem yields_pure {a b : α} : (pure a : Reading α).Yields index b ↔ b = a := by
  refine ⟨fun h => ?_, fun h => ?_⟩
  · cases h; rfl
  · rw [h]; exact .done a

@[simp] theorem yields_failed {e : SchemaError} {a : α} :
    (failed e : Reading α).Yields index a ↔ False :=
  ⟨fun h => (nomatch h), False.elim⟩

@[simp] theorem yields_lift {r : Except SchemaError α} {a : α} :
    (liftM r : Reading α).Yields index a ↔ r = .ok a := by
  cases r with
  | ok b =>
      refine ⟨fun h => ?_, fun h => ?_⟩
      · cases h; rfl
      · cases h; exact .done a
  | error e => exact ⟨fun h => (nomatch h), fun h => (nomatch h)⟩

@[simp] theorem yields_sub {place : Target} {v : Value} {i : Nat} :
    (sub place v).Yields index i ↔ index place i := by
  refine ⟨fun h => ?_, fun h => .needs h (.done i)⟩
  cases h with
  | needs hi hd => cases hd; exact hi

@[simp] theorem yields_bind {m : Reading α} {f : α → Reading β} {b : β} :
    (m >>= f).Yields index b ↔ ∃ a, m.Yields index a ∧ (f a).Yields index b := by
  constructor
  · intro h
    induction m with
    | done a => exact ⟨a, .done a, h⟩
    | failed e => exact nomatch h
    | needs place v next ih =>
        cases h with
        | needs hi hn =>
            obtain ⟨a, ha, hb⟩ := ih _ hn
            exact ⟨a, .needs hi ha, hb⟩
  · rintro ⟨a, ha, hb⟩
    induction ha with
    | done a => exact hb
    | needs hi _ ih => exact .needs hi (ih hb)

/-- Reading a list yields the list of what its members yield. -/
theorem yields_mapM {γ : Type} {f : γ → Reading α} {cs : List γ} {as : List α} :
    (cs.mapM f).Yields index as ↔ List.Forall₂ (fun c a => (f c).Yields index a) cs as := by
  induction cs generalizing as with
  | nil => rw [List.mapM_nil, yields_pure, List.forall₂_nil_left_iff]
  | cons c rest ih =>
      rw [List.mapM_cons, yields_bind, List.forall₂_cons_left_iff]
      -- the head is read before the tail, and both end
      refine ⟨fun ⟨a, ha, h⟩ => ?_, fun ⟨a, as, ha, has, h⟩ => ?_⟩
      · obtain ⟨as, has, h⟩ := yields_bind.mp h
        exact ⟨a, as, ha, ih.mp has, yields_pure.mp h⟩
      · exact ⟨a, ha, yields_bind.mpr ⟨as, ih.mpr has, yields_pure.mpr h⟩⟩

theorem Yields.mono {index' : Target → Nat → Prop} {m : Reading α} {a : α}
    (h : m.Yields index a) (hi : ∀ place i, index place i → index' place i) :
    m.Yields index' a := by
  induction h with
  | done a => exact .done a
  | needs hp _ ih => exact .needs (hi _ _ hp) ih

/-- Whatever is asked for has an index. -/
theorem Yields.index_of_asks {m : Reading α} {a : α} {l : List (Target × Value)}
    (h : m.Yields index a) (hl : m.Asks l) {place : Target} {v : Value} (hp : (place, v) ∈ l) :
    ∃ i, index place i := by
  induction h generalizing l with
  | done a =>
      have hnil : l = [] := hl
      rw [hnil] at hp
      exact absurd hp List.not_mem_nil
  | needs hi _ ih =>
      obtain ⟨rest, rfl, hrest⟩ := hl
      rcases List.mem_cons.mp hp with heq | hp
      · cases heq; exact ⟨_, hi⟩
      · exact ih (hrest _) hp

/-! ## Ending -/

/-- The reading ends with something if `P` holds, and fails if it does not. -/
def EndsIff : Reading α → Prop → Prop
  | done _, P => P
  | failed _, P => ¬ P
  | needs _ _ next, P => ∀ i, (next i).EndsIff P

theorem EndsIff.congr {m : Reading α} {P Q : Prop} (h : m.EndsIff P) (hpq : P ↔ Q) :
    m.EndsIff Q := by
  rwa [propext hpq] at h

theorem endsIff_pure (a : α) : (pure a : Reading α).EndsIff True := trivial

theorem endsIff_lift (r : Except SchemaError α) :
    (liftM r : Reading α).EndsIff (r.isOk = true) := by
  cases r with
  | ok a => exact rfl
  | error e => exact Bool.false_ne_true

theorem endsIff_sub (place : Target) (v : Value) : (sub place v).EndsIff True := fun _ => trivial

/-- One reading after another ends if both do. -/
theorem EndsIff.bind {m : Reading α} {f : α → Reading β} {P Q : Prop} (hm : m.EndsIff P)
    (hf : ∀ a, (f a).EndsIff Q) : (m >>= f).EndsIff (P ∧ Q) := by
  induction m with
  | done a => exact (hf a).congr ⟨fun hq => ⟨hm, hq⟩, fun h => h.2⟩
  | failed e => exact fun h => hm h.1
  | needs place v next ih => exact fun i => ih i (hm i)

theorem EndsIff.map {m : Reading α} {P : Prop} (hm : m.EndsIff P) (f : α → β) :
    (m >>= fun a => pure (f a)).EndsIff P :=
  (hm.bind fun a => endsIff_pure (f a)).congr (and_iff_left trivial)

theorem endsIff_mapM {γ : Type} {f : γ → Reading α} {P : γ → Prop} (h : ∀ c, (f c).EndsIff (P c))
    (cs : List γ) : (cs.mapM f).EndsIff (∀ c ∈ cs, P c) := by
  induction cs with
  | nil =>
      rw [List.mapM_nil]
      exact (endsIff_pure []).congr (iff_of_true trivial fun c hc => absurd hc List.not_mem_nil)
  | cons c rest ih =>
      rw [List.mapM_cons, List.forall_mem_cons]
      exact (h c).bind fun a => ih.map (a :: ·)

/-- A reading that yields something has ended. -/
theorem Yields.of_endsIff {m : Reading α} {a : α} (h : m.Yields index a) {P : Prop}
    (hp : m.EndsIff P) : P := by
  induction h with
  | done a => exact hp
  | needs _ _ ih => exact ih (hp _)

/-! ## Failing -/

/-- If the reading fails, whatever indices it is given, the error has the property. -/
def FailsOnly (Q : SchemaError → Prop) : Reading α → Prop
  | done _ => True
  | failed e => Q e
  | needs _ _ next => ∀ i, (next i).FailsOnly Q

variable {Q : SchemaError → Prop}

theorem FailsOnly.imp {P : SchemaError → Prop} {m : Reading α} (h : m.FailsOnly P)
    (himp : ∀ e, P e → Q e) : m.FailsOnly Q := by
  induction m with
  | done a => trivial
  | failed e => exact himp e h
  | needs place v next ih => exact fun i => ih i (h i)

theorem failsOnly_pure (a : α) : (pure a : Reading α).FailsOnly Q := trivial

theorem failsOnly_lift {r : Except SchemaError α} (h : ∀ e, r = .error e → Q e) :
    (liftM r : Reading α).FailsOnly Q := by
  cases r with
  | ok a => trivial
  | error e => exact h e rfl

theorem failsOnly_sub (place : Target) (v : Value) : (sub place v).FailsOnly Q := fun _ => trivial

theorem FailsOnly.bind {m : Reading α} {f : α → Reading β} (hm : m.FailsOnly Q)
    (hf : ∀ a, (f a).FailsOnly Q) : (m >>= f).FailsOnly Q := by
  induction m with
  | done a => exact hf a
  | failed e => exact hm
  | needs place v next ih => exact fun i => ih i (hm i)

theorem FailsOnly.map {m : Reading α} (hm : m.FailsOnly Q) (f : α → β) :
    (m >>= fun a => pure (f a)).FailsOnly Q :=
  hm.bind fun a => failsOnly_pure (f a)

theorem failsOnly_mapM {γ : Type} {f : γ → Reading α} {cs : List γ}
    (h : ∀ c ∈ cs, (f c).FailsOnly Q) : (cs.mapM f).FailsOnly Q := by
  induction cs with
  | nil => rw [List.mapM_nil]; exact failsOnly_pure []
  | cons c rest ih =>
      rw [List.forall_mem_cons] at h
      rw [List.mapM_cons]
      exact h.1.bind fun a => (ih h.2).map (a :: ·)

end JsonSchema.Reading
