import JsonSchema.Proofs.Direct.Same
import JsonSchema.Proofs.Number.Alike
import JsonSchema.Proofs.Shuffled

/-!
# Presentations of one value

Values are alike if they differ only in the order of members, at any depth, and in the form in which
whole numbers below `2 ^ 53` are written. Equality does not tell such values apart, on either side.
This is more than being equal: an integer beyond `2 ^ 53` equals the binary64 number nearest to it,
but two such integers may have the same one.
-/

namespace JsonSchema

namespace Members

variable {α : Type} {members own : Members α} {name : String}

theorem get?_eq_some_iff (hd : members.Distinct) {a : α} :
    members.get? name = some a ↔ (name, a) ∈ members :=
  ⟨mem_of_get?, get?_of_mem hd⟩

/-- Where a member stands does not matter. -/
theorem get?_of_perm (hd : members.Distinct) (hperm : members.Perm own) (name : String) :
    members.get? name = own.get? name := by
  have hd' : own.Distinct := (hperm.map Prod.fst).nodup hd
  refine Option.ext fun a => ?_
  rw [get?_eq_some_iff hd, get?_eq_some_iff hd', hperm.mem_iff]

end Members

namespace Value

/-- The values differ only in the order of members and in the form of small whole numbers. -/
inductive Alike : Value → Value → Prop where
  | null : Alike .null .null
  | bool (b : Bool) : Alike (.bool b) (.bool b)
  | string (s : String) : Alike (.string s) (.string s)
  | number {m n : Number} : m.Alike n → Alike (.number m) (.number n)
  /-- Elements keep their places. -/
  | array {as bs : List Value} : as.length = bs.length → (∀ p ∈ as.zip bs, Alike p.1 p.2) →
      Alike (.array as) (.array bs)
  /-- Members keep their names, once they are brought in the same order. -/
  | object {as own bs : Members Value} : as.Perm own → own.map Prod.fst = bs.map Prod.fst →
      (∀ p ∈ own.zip bs, Alike p.1.2 p.2.2) → Alike (.object as) (.object bs)

/-- Members with the same name and values that are alike. -/
def AlikeMember (p q : String × Value) : Prop := p.1 = q.1 ∧ p.2.Alike q.2

variable {v w : Value} {as bs : List Value} {ms ns : Members Value}

/-! ## Arrays and objects -/

/-- Names that agree and values that are related, side by side. -/
theorem forall₂_of_names {R : Value → Value → Prop} {own : Members Value}
    (hnames : own.map Prod.fst = ns.map Prod.fst) (h : ∀ p ∈ own.zip ns, R p.1.2 p.2.2) :
    List.Forall₂ (fun p q => p.1 = q.1 ∧ R p.2 q.2) own ns := by
  induction own generalizing ns with
  | nil =>
      cases ns with
      | nil => exact .nil
      | cons q rest => exact nomatch hnames
  | cons p own ih =>
      cases ns with
      | nil => exact nomatch hnames
      | cons q rest =>
          rw [List.map_cons, List.map_cons, List.cons.injEq] at hnames
          rw [List.zip_cons_cons, List.forall_mem_cons] at h
          exact .cons ⟨hnames.1, h.1⟩ (ih hnames.2 h.2)

theorem forall₂_of_zip {R : Value → Value → Prop} (hlength : as.length = bs.length)
    (h : ∀ p ∈ as.zip bs, R p.1 p.2) : List.Forall₂ R as bs :=
  List.forall₂_iff_zip.mpr ⟨hlength, fun hp => h _ hp⟩

theorem alike_array (h : List.Forall₂ Alike as bs) : Alike (.array as) (.array bs) := by
  obtain ⟨hlength, hzip⟩ := List.forall₂_iff_zip.mp h
  exact .array hlength fun p hp => hzip hp

theorem alike_object (h : Shuffled AlikeMember ms ns) : Alike (.object ms) (.object ns) := by
  obtain ⟨own, hperm, hrel⟩ := h
  have hnames : own.map Prod.fst = ns.map Prod.fst := by
    clear hperm
    induction hrel with
    | nil => rfl
    | cons hpq _ ih => rw [List.map_cons, List.map_cons, hpq.1, ih]
  obtain ⟨_, hzip⟩ := List.forall₂_iff_zip.mp hrel
  exact .object hperm hnames fun p hp => (hzip hp).2

theorem Alike.elements (h : Alike (.array as) w) :
    ∃ bs, w = .array bs ∧ List.Forall₂ Alike as bs := by
  cases h with
  | array hlength hzip => exact ⟨_, rfl, forall₂_of_zip hlength hzip⟩

theorem Alike.members (h : Alike (.object ms) w) :
    ∃ ns, w = .object ns ∧ Shuffled AlikeMember ms ns := by
  cases h with
  | object hperm hnames hzip => exact ⟨_, rfl, _, hperm, forall₂_of_names hnames hzip⟩

/-! ## Alike is an equivalence on both sides -/

theorem Alike.symm (h : v.Alike w) : w.Alike v := by
  induction h with
  | null => exact .null
  | bool b => exact .bool b
  | string s => exact .string s
  | number h => exact .number h.symm
  | array hlength _ ih => exact alike_array (forall₂_of_zip hlength ih).flip
  | object hperm hnames _ ih =>
      have hown := forall₂_of_names (R := fun a b => b.Alike a) hnames ih
      refine alike_object (Shuffled.imp (Shuffled.symm ⟨_, hperm, hown⟩) fun q p hpq => ?_)
      exact ⟨hpq.1.symm, hpq.2⟩

theorem Alike.refl (v : Value) : v.Alike v := by
  induction hheight : v.height using Nat.strongRecOn generalizing v with
  | ind height ih =>
      cases v with
      | null => exact .null
      | bool b => exact .bool b
      | string s => exact .string s
      | number n => exact .number (.refl n)
      | array items =>
          refine alike_array (List.forall₂_same.mpr fun w hw => ?_)
          exact ih _ (hheight ▸ height_lt_of_mem_items hw) w rfl
      | object members =>
          refine alike_object (.of_forall₂ (List.forall₂_same.mpr fun p hp => ⟨rfl, ?_⟩))
          exact ih _ (hheight ▸ height_lt_of_mem_members hp) p.2 rfl

theorem Alike.distinct (h : v.Alike w) (hd : v.Distinct) : w.Distinct := by
  induction h with
  | array hlength _ ih =>
      rw [distinct_array] at hd ⊢
      intro b hb
      have hown := forall₂_of_zip (R := fun a b => a.Distinct → b.Distinct) hlength ih
      obtain ⟨a, ha, hab⟩ := (Shuffled.of_forall₂ hown).exists_left hb
      exact hab (hd a ha)
  | object hperm hnames _ ih =>
      rw [distinct_object] at hd ⊢
      refine ⟨?_, fun q hq => ?_⟩
      · have hown := (hperm.map Prod.fst).nodup hd.1
        rwa [hnames] at hown
      · have hown := forall₂_of_names (R := fun a b => a.Distinct → b.Distinct) hnames ih
        obtain ⟨p, hp, _, hpq⟩ := Shuffled.exists_left ⟨_, hperm, hown⟩ hq
        exact hpq (hd.2 p hp)
  | _ => trivial

/-! ## Members by name -/

/-- The members with the name are related, or both are absent. -/
theorem rel_get? {R : Value → Value → Prop}
    (h : Shuffled (fun p q => p.1 = q.1 ∧ R p.2 q.2) ms ns) (hd : ms.Distinct) (name : String) :
    Option.Rel R (ms.get? name) (ns.get? name) := by
  obtain ⟨own, hperm, hrel⟩ := h
  rw [Members.get?_of_perm hd hperm]
  clear hperm
  induction hrel with
  | nil => exact .none
  | @cons p q _ _ hpq _ ih =>
      obtain ⟨n, a⟩ := p
      obtain ⟨n', b⟩ := q
      obtain ⟨hn, hab⟩ := hpq
      have hn' : n = n' := hn
      subst hn'
      rw [Members.get?_cons, Members.get?_cons]
      by_cases hname : name = n
      · rw [if_pos hname, if_pos hname]
        exact .some hab
      · rw [if_neg hname, if_neg hname]
        exact ih

/-! ## Equality does not tell presentations apart -/

theorem sameItems_congr {R S : Value → Value → Prop} {us ws : List Value}
    (h : List.Forall₂ R as bs) (h' : List.Forall₂ S us ws)
    (hsame : ∀ {a b u w}, R a b → S u w → a.same u = b.same w) :
    sameItems as us = sameItems bs ws := by
  induction h generalizing us ws with
  | nil => cases h' <;> rfl
  | cons hab _ ih =>
      cases h' with
      | nil => rfl
      | cons huw hrest => rw [sameItems, sameItems, hsame hab huw, ih hrest]

theorem sameMembers_eq_all (ms us : Members Value) :
    sameMembers ms us = ms.all fun p => (us.get? p.1).any fun u => p.2.same u := by
  induction ms with
  | nil => rfl
  | cons p rest ih =>
      obtain ⟨name, v⟩ := p
      rw [sameMembers, List.all_cons, ih]
      cases us.get? name <;> rfl

/-- **Values that are alike equal the same values.** -/
theorem Alike.same_left (h : v.Alike w) (u : Value) : v.same u = w.same u := by
  induction h generalizing u with
  | number h =>
      cases u with
      | number n => rw [same, same, h.same_left]
      | _ => simp only [same]
  | @array as bs hlength _ ih =>
      cases u with
      | array us =>
          have hitems : List.Forall₂ (fun a b => ∀ u : Value, a.same u = b.same u) as bs :=
            forall₂_of_zip hlength ih
          rw [same, same]
          exact sameItems_congr (S := Eq) hitems (List.forall₂_refl us) fun hab heq => heq ▸ hab _
      | _ => simp only [same]
  | @object ms own ns hperm hnames _ ih =>
      cases u with
      | object us =>
          have hmembers : Shuffled (fun p q => p.1 = q.1 ∧ ∀ u, p.2.same u = q.2.same u) ms ns :=
            ⟨own, hperm, forall₂_of_names (R := fun a b => ∀ u, a.same u = b.same u) hnames ih⟩
          rw [same, same, sameMembers_eq_all, sameMembers_eq_all, hmembers.length_eq]
          refine congrArg (_ && ·) (hmembers.all_eq fun p q hpq => ?_)
          rw [hpq.1, funext hpq.2]
      | _ => simp only [same]
  | _ => rfl

/-- And the same values equal them. -/
theorem Alike.same_right (h : v.Alike w) (hd : v.Distinct) (u : Value) : u.same v = u.same w := by
  induction h generalizing u with
  | number h =>
      cases u with
      | number n => rw [same, same, h.same_right]
      | _ => simp only [same]
  | @array as bs hlength _ ih =>
      cases u with
      | array us =>
          have hitems : List.Forall₂ (fun a b => ∀ u : Value, u.same a = u.same b) as bs := by
            refine forall₂_of_zip hlength fun p hp => ih p hp ?_
            exact distinct_array.mp hd _ (List.of_mem_zip hp).1
          rw [same, same]
          exact sameItems_congr (R := Eq) (List.forall₂_refl us) hitems fun heq hab => heq ▸ hab _
      | _ => simp only [same]
  | @object ms own ns hperm hnames _ ih =>
      cases u with
      | object us =>
          obtain ⟨hdistinct, hvalues⟩ := distinct_object.mp hd
          have hmembers :
              Shuffled (fun p q => p.1 = q.1 ∧ ∀ u : Value, u.same p.2 = u.same q.2) ms ns := by
            refine ⟨own, hperm, forall₂_of_names
              (R := fun a b => ∀ u : Value, u.same a = u.same b) hnames fun p hp => ih p hp ?_⟩
            exact hvalues _ (hperm.mem_iff.mpr (List.of_mem_zip hp).1)
          rw [same, same, sameMembers_eq_all, sameMembers_eq_all, hmembers.length_eq]
          refine congrArg (fun f => _ && us.all f) (funext fun p => ?_)
          have hname := rel_get? (R := fun a b => ∀ u : Value, u.same a = u.same b) hmembers
            hdistinct p.1
          generalize ms.get? p.1 = o, ns.get? p.1 = o' at hname
          cases hname with
          | none => rfl
          | some hab => exact hab p.2
      | _ => simp only [same]
  | _ => rfl

theorem sameItems_of_forall₂ (h : List.Forall₂ (fun a b => a.same b = true) as bs) :
    sameItems as bs = true := by
  induction h with
  | nil => rfl
  | cons hab _ ih =>
      rw [sameItems, hab, ih]
      rfl

/-- Values that are alike are equal. -/
theorem Alike.same (h : v.Alike w) (hd : v.Distinct) : v.same w = true := by
  induction h with
  | null => rfl
  | bool b => exact beq_self_eq_true b
  | string s => exact beq_self_eq_true s
  | number h => exact h.same
  | @array as bs hlength _ ih =>
      have hitems : List.Forall₂ (fun a b => a.same b = true) as bs :=
        forall₂_of_zip hlength fun p hp => ih p hp (distinct_array.mp hd _ (List.of_mem_zip hp).1)
      rw [Value.same]
      exact sameItems_of_forall₂ hitems
  | @object ms own ns hperm hnames _ ih =>
      obtain ⟨hdistinct, hvalues⟩ := distinct_object.mp hd
      have hmembers : Shuffled (fun p q => p.1 = q.1 ∧ p.2.same q.2 = true) ms ns := by
        refine ⟨own, hperm, forall₂_of_names (R := fun a b => a.same b = true) hnames
          fun p hp => ih p hp ?_⟩
        exact hvalues _ (hperm.mem_iff.mpr (List.of_mem_zip hp).1)
      rw [Value.same, hmembers.length_eq, beq_self_eq_true, Bool.true_and, sameMembers_eq_all]
      refine List.all_eq_true.mpr fun p hp => ?_
      -- the member on the left is found under its name, so the one on the right is
      have hname := rel_get? (R := fun a b => a.same b = true) hmembers hdistinct p.1
      rw [Members.get?_of_mem hdistinct hp] at hname
      generalize ns.get? p.1 = o at hname
      cases hname with
      | some hab => exact hab

/-- **Equality does not tell values from those that they are alike with.** -/
theorem Alike.same_congr {v' w' : Value} (h : v.Alike w) (h' : v'.Alike w') (hd' : v'.Distinct) :
    v.same v' = w.same w' := by
  rw [h.same_left, h'.same_right hd']

theorem hasDuplicate_alike (h : List.Forall₂ Alike as bs) (hd : ∀ a ∈ as, a.Distinct) :
    hasDuplicate as = hasDuplicate bs := by
  induction h with
  | nil => rfl
  | @cons a b as bs hab hrest ih =>
      rw [List.forall_mem_cons] at hd
      rw [hasDuplicate, hasDuplicate, ih hd.2]
      refine congrArg (· || _) ?_
      have hboth : List.Forall₂ (fun a b => a.Distinct ∧ a.Alike b) as bs :=
        (List.forall₂_and_left as bs).mpr ⟨hd.2, hrest⟩
      exact (Shuffled.of_forall₂ hboth).any_eq fun c d hcd => hab.same_congr hcd.2 hcd.1

theorem accepts_alike (h : v.Alike w) (t : TypeName) : t.accepts v = t.accepts w := by
  cases h with
  | number h =>
      cases t with
      | integer => exact decide_eq_decide.mpr h.isWhole_iff
      | _ => rfl
  | _ => cases t <;> rfl

/-! ## Values in which no name occurs twice -/

/-- The values are alike, and no name occurs twice in them. -/
structure Restates (v w : Value) : Prop where
  alike : v.Alike w
  distinct : v.Distinct

/-- Members with the same name and values that restate each other. -/
def RestatesMember (p q : String × Value) : Prop := p.1 = q.1 ∧ p.2.Restates q.2

theorem Restates.symm (h : v.Restates w) : w.Restates v :=
  ⟨h.alike.symm, h.alike.distinct h.distinct⟩

theorem Restates.same (h : v.Restates w) : v.same w = true := h.alike.same h.distinct

theorem Restates.elements (h : Restates (.array as) w) :
    ∃ bs, w = .array bs ∧ List.Forall₂ Restates as bs := by
  obtain ⟨bs, rfl, hitems⟩ := h.alike.elements
  refine ⟨bs, rfl, ?_⟩
  have hboth : List.Forall₂ (fun a b => a.Distinct ∧ a.Alike b) as bs :=
    (List.forall₂_and_left as bs).mpr ⟨distinct_array.mp h.distinct, hitems⟩
  exact hboth.imp fun a b hab => ⟨hab.2, hab.1⟩

theorem Restates.members (h : Restates (.object ms) w) :
    ∃ ns, w = .object ns ∧ ms.Distinct ∧ Shuffled RestatesMember ms ns := by
  obtain ⟨hdistinct, hvalues⟩ := distinct_object.mp h.distinct
  obtain ⟨ns, rfl, own, hperm, hrel⟩ := h.alike.members
  refine ⟨ns, rfl, hdistinct, own, hperm, ?_⟩
  have hboth : List.Forall₂ (fun p q => p.2.Distinct ∧ AlikeMember p q) own ns :=
    (List.forall₂_and_left own ns).mpr ⟨fun p hp => hvalues p (hperm.mem_iff.mpr hp), hrel⟩
  exact hboth.imp fun p q hpq => ⟨hpq.2.1, hpq.2.2, hpq.1⟩

end Value

/-! ## Places -/

namespace Pointer

open Value

variable {v w : Value}

theorem step_restates (h : v.Restates w) (token : String) :
    Option.Rel Restates (step v token) (step w token) := by
  cases v with
  | array as =>
      obtain ⟨bs, rfl, hitems⟩ := h.elements
      unfold step
      dsimp only
      cases index? token.toList with
      | none => exact .none
      | some i => exact rel_getElem? hitems i
  | object ms =>
      obtain ⟨ns, rfl, hdistinct, hmembers⟩ := h.members
      exact rel_get? hmembers hdistinct token
  | _ =>
      cases h.alike
      exact .none

/-- **The same way leads to values that restate each other.** -/
theorem walk_restates (h : v.Restates w) (tokens : List String) :
    Option.Rel Restates (walk tokens v) (walk tokens w) := by
  induction tokens generalizing v w with
  | nil => exact .some h
  | cons token rest ih =>
      rw [walk_cons, walk_cons]
      have hstep := step_restates h token
      generalize step v token = o, step w token = o' at hstep
      cases hstep with
      | none => exact .none
      | some hu => exact ih hu

end Pointer

namespace Direct

open Value Compile

/-- The documents restate each other one by one. -/
abbrev RestatesAll (documents documents' : List Value) : Prop :=
  List.Forall₂ Restates documents documents'

variable {documents documents' : List Value}

theorem restatesAll_of_alike (hd : ∀ document ∈ documents, document.Distinct)
    (h : List.Forall₂ Alike documents documents') : RestatesAll documents documents' := by
  have hboth := (List.forall₂_and_left documents documents').mpr ⟨hd, h⟩
  exact hboth.imp fun _ _ hab => ⟨hab.2, hab.1⟩

theorem RestatesAll.refl (hd : ∀ document ∈ documents, document.Distinct) :
    RestatesAll documents documents :=
  List.forall₂_same.mpr fun document hmem => ⟨.refl document, hd document hmem⟩

variable (h : RestatesAll documents documents')
include h

theorem RestatesAll.symm : RestatesAll documents' documents := h.flip.imp fun _ _ hd => hd.symm

theorem RestatesAll.distinct : ∀ document ∈ documents, document.Distinct := by
  intro document hmem
  obtain ⟨_, hd⟩ := exists_of_mem_left h hmem
  exact hd.distinct

theorem documentAt_restates (base : BaseUri) :
    Option.Rel Restates (documentAt documents base) (documentAt documents' base) := by
  induction h with
  | nil => exact .none
  | @cons d d' rest rest' hd _ ih =>
      have hbase : hasBase base d = hasBase base d' := by
        unfold hasBase
        rw [documentBase_of_same hd.same hd.distinct]
      unfold documentAt at ih ⊢
      rw [List.find?_cons, List.find?_cons, ← hbase]
      cases hasBase base d with
      | true => exact .some hd
      | false => exact ih

theorem valueAt_restates (place : Target) :
    Option.Rel Restates (valueAt documents place) (valueAt documents' place) := by
  unfold valueAt
  have hdocument := documentAt_restates h place.base
  generalize documentAt documents place.base = o, documentAt documents' place.base = o' at hdocument
  cases hdocument with
  | none => exact .none
  | some hd => exact Pointer.walk_restates hd place.pointer.tokens

theorem RestatesAll.exists_valueAt {place : Target} {v : Value}
    (hv : valueAt documents place = some v) :
    ∃ w, valueAt documents' place = some w ∧ v.Restates w := by
  have hvalue := valueAt_restates h place
  rw [hv] at hvalue
  generalize valueAt documents' place = o at hvalue
  cases hvalue with
  | some hvw => exact ⟨_, rfl, hvw⟩

/-- An object is restated by an object. -/
theorem RestatesAll.exists_membersAt {place : Target} {members : Members Value}
    (hv : valueAt documents place = some (.object members)) :
    ∃ members', valueAt documents' place = some (.object members') ∧
      (Value.object members).Restates (.object members') := by
  obtain ⟨w, hw, hvw⟩ := h.exists_valueAt hv
  obtain ⟨members', rfl, _⟩ := hvw.members
  exact ⟨members', hw, hvw⟩

end Direct

end JsonSchema
