import JsonSchema.Proofs.Compilation.Formed
import Mathlib.Data.List.Perm.Subperm

/-!
# Equal values

Equal objects have the same names, and the members under a name are equal, however they are ordered.
So the schemas inside equal schemas are equal and stand at the same places, and if one schema is
well-formed, then so is every schema that equals it.
-/

namespace JsonSchema

namespace Value

/-! ## Equal values -/

theorem same_array {v : Value} {items : List Value} (h : v.same (.array items) = true) :
    ∃ own, v = .array own ∧ List.Forall₂ (fun a b => a.same b = true) own items := by
  cases v with
  | array own =>
      refine ⟨own, rfl, ?_⟩
      rw [same] at h
      induction own generalizing items with
      | nil =>
          cases items with
          | nil => exact .nil
          | cons w rest => exact nomatch h
      | cons v rest ih =>
          cases items with
          | nil => exact nomatch h
          | cons w rest' =>
              rw [sameItems, Bool.and_eq_true] at h
              exact .cons h.1 (ih h.2)
  | _ => simp [same] at h

theorem same_object {v : Value} {members : Members Value} (h : v.same (.object members) = true) :
    ∃ own, v = .object own ∧ own.length = members.length ∧ sameMembers own members = true := by
  cases v with
  | object own =>
      rw [same, Bool.and_eq_true] at h
      exact ⟨own, rfl, eq_of_beq h.1, h.2⟩
  | _ => simp [same] at h

theorem ne_array_of_same {v w : Value} (h : v.same w = true) (hw : ∀ items, w ≠ .array items) :
    ∀ items, v ≠ .array items := by
  rintro items rfl
  cases w with
  | array own => exact hw own rfl
  | _ => simp [same] at h

/-- The members on the left have their equals on the right. -/
theorem get?_of_sameMembers {own members : Members Value} (h : sameMembers own members = true) :
    ∀ p ∈ own, ∃ w, members.get? p.1 = some w ∧ p.2.same w = true := by
  induction own with
  | nil => exact fun p hp => absurd hp List.not_mem_nil
  | cons q rest ih =>
      obtain ⟨name, v⟩ := q
      rw [sameMembers, Bool.and_eq_true] at h
      intro p hp
      rcases List.mem_cons.mp hp with rfl | hp
      · cases hw : members.get? name with
        | none => rw [hw] at h; exact nomatch h.1
        | some w => rw [hw] at h; exact ⟨w, rfl, h.1⟩
      · exact ih h.2 p hp

/-- And those on the right have theirs on the left, since there are as many. -/
theorem get?_of_same {own members : Members Value} (hd : own.Distinct)
    (hlength : own.length = members.length) (h : sameMembers own members = true) {name : String}
    {w : Value} (hw : members.get? name = some w) :
    ∃ v, own.get? name = some v ∧ v.same w = true := by
  have hnames : own.map Prod.fst ⊆ members.map Prod.fst := by
    intro n hn
    obtain ⟨p, hp, rfl⟩ := List.mem_map.mp hn
    obtain ⟨v, hv, _⟩ := get?_of_sameMembers h p hp
    exact List.mem_map.mpr ⟨_, Members.mem_of_get? hv, rfl⟩
  -- there are as many names on both sides, so none on the right is new
  have hperm : (own.map Prod.fst).Perm (members.map Prod.fst) := by
    refine (List.subperm_of_subset hd hnames).perm_of_length_le (Nat.le_of_eq ?_)
    rw [List.length_map, List.length_map, hlength]
  have hname : name ∈ own.map Prod.fst :=
    hperm.mem_iff.mpr (List.mem_map.mpr ⟨_, Members.mem_of_get? hw, rfl⟩)
  obtain ⟨⟨n, v⟩, hp, rfl⟩ := List.mem_map.mp hname
  obtain ⟨w', hw', hsame⟩ := get?_of_sameMembers h _ hp
  rw [hw] at hw'
  cases hw'
  exact ⟨v, Members.get?_of_mem hd hp, hsame⟩

end Value

namespace Subschemas

/-- Everything on the right has its equal on the left, at the same place. -/
def Matched (l l' : List (List String × Value)) : Prop :=
  ∀ p ∈ l', ∃ v, (p.1, v) ∈ l ∧ v.same p.2 = true

theorem Matched.append {l₁ l₂ l₁' l₂' : List (List String × Value)} (h₁ : Matched l₁ l₁')
    (h₂ : Matched l₂ l₂') : Matched (l₁ ++ l₂) (l₁' ++ l₂') := by
  intro p hp
  rcases List.mem_append.mp hp with hp | hp
  · obtain ⟨v, hv, hsame⟩ := h₁ p hp
    exact ⟨v, List.mem_append_left _ hv, hsame⟩
  · obtain ⟨v, hv, hsame⟩ := h₂ p hp
    exact ⟨v, List.mem_append_right _ hv, hsame⟩

theorem matched_nil (l : List (List String × Value)) : Matched l [] :=
  fun _ hp => absurd hp List.not_mem_nil

theorem matched_one {tokens : List String} {v w : Value} (h : v.same w = true) :
    Matched [(tokens, v)] [(tokens, w)] := by
  intro _ hp
  rw [List.mem_singleton.mp hp]
  exact ⟨v, List.mem_cons_self, h⟩

theorem matched_elements (keyword : String) {own schemas : List Value}
    (h : List.Forall₂ (fun a b => a.same b = true) own schemas) :
    Matched (elements keyword own) (elements keyword schemas) := by
  intro _ hp
  obtain ⟨⟨w, i⟩, hw, rfl⟩ := List.mem_map.mp hp
  obtain ⟨hi, hget⟩ := List.getElem?_eq_some_iff.mp (List.mem_zipIdx_iff_getElem?.mp hw)
  have hi' : i < own.length := h.length_eq ▸ hi
  have hsame := h.get hi' hi
  rw [List.get_eq_getElem, List.get_eq_getElem, hget] at hsame
  refine ⟨own[i], List.mem_map.mpr ⟨(own[i], i), ?_, rfl⟩, hsame⟩
  exact List.mem_zipIdx_iff_getElem?.mpr (List.getElem?_eq_getElem hi')

/-- Every member on the right has its equal on the left, under the same name. -/
def Equals (own members : Members Value) : Prop :=
  ∀ {name w}, members.get? name = some w → ∃ v, own.get? name = some v ∧ v.same w = true

theorem equals_of_same {own members : Members Value} (hd : (Value.object own).Distinct)
    (h : (Value.object own).same (.object members) = true) : Equals own members := by
  obtain ⟨_, heq, hlength, hsame⟩ := Value.same_object h
  cases heq
  intro name w hw
  exact Value.get?_of_same (Value.distinct_object.mp hd).1 hlength hsame hw

section

variable {own members : Members Value} (h : Equals own members)
include h

theorem matched_single (keyword : String) :
    Matched (single own keyword) (single members keyword) := by
  unfold single
  cases hw : members.get? keyword with
  | none => exact matched_nil _
  | some w =>
      obtain ⟨v, hv, hsame⟩ := h hw
      rw [hv]
      exact matched_one hsame

theorem matched_listed (keyword : String) :
    Matched (listed own keyword) (listed members keyword) := by
  unfold listed
  cases hw : members.get? keyword with
  | none => exact matched_nil _
  | some w =>
      obtain ⟨v, hv, hsame⟩ := h hw
      rw [hv]
      cases w with
      | array schemas =>
          obtain ⟨items, rfl, hitems⟩ := Value.same_array hsame
          exact matched_elements keyword hitems
      | _ => exact matched_nil _

theorem matched_items : Matched (items own) (items members) := by
  unfold items
  cases hw : members.get? "items" with
  | none => exact matched_nil _
  | some w =>
      obtain ⟨v, hv, hsame⟩ := h hw
      rw [hv]
      cases w with
      | array schemas =>
          obtain ⟨items, rfl, hitems⟩ := Value.same_array hsame
          exact matched_elements "items" hitems
      | _ =>
          -- the value is no array on either side
          have hne := Value.ne_array_of_same hsame fun _ he => nomatch he
          cases v with
          | array items => exact absurd rfl (hne items)
          | _ => exact matched_one hsame

variable (hd : (Value.object own).Distinct) (hd' : (Value.object members).Distinct)
include hd hd'

/-- The members of the value of a keyword have their equals, too. -/
theorem equal_member {keyword : String} {m' : Members Value}
    (hm' : members.get? keyword = some (.object m')) :
    ∃ m, own.get? keyword = some (.object m) ∧
      ∀ p ∈ m', ∃ v, (p.1, v) ∈ m ∧ v.same p.2 = true := by
  obtain ⟨v, hv, hsame⟩ := h hm'
  have hdv := (Value.distinct_object.mp hd).2 _ (Members.mem_of_get? hv)
  have hdm := (Value.distinct_object.mp hd').2 _ (Members.mem_of_get? hm')
  obtain ⟨m, rfl, _⟩ := Value.same_object hsame
  refine ⟨m, hv, fun p hp => ?_⟩
  have hp := Members.get?_of_mem (Value.distinct_object.mp hdm).1 hp
  -- the objects are equal as well, so the argument is the same further down
  obtain ⟨u, hu, hsame⟩ := equals_of_same hdv hsame hp
  exact ⟨u, Members.mem_of_get? hu, hsame⟩

theorem matched_named (keyword : String) :
    Matched (named own keyword) (named members keyword) := by
  unfold named
  cases hw : members.get? keyword with
  | none => exact matched_nil _
  | some w =>
      cases w with
      | object m' =>
          obtain ⟨m, hm, hmembers⟩ := equal_member h hd hd' hw
          rw [hm]
          intro p hp
          obtain ⟨q, hq, rfl⟩ := List.mem_map.mp hp
          obtain ⟨v, hv, hsame⟩ := hmembers q hq
          exact ⟨v, List.mem_map.mpr ⟨_, hv, rfl⟩, hsame⟩
      | _ => exact matched_nil _

theorem matched_dependencies : Matched (dependencies own) (dependencies members) := by
  unfold dependencies
  cases hw : members.get? "dependencies" with
  | none => exact matched_nil _
  | some w =>
      cases w with
      | object m' =>
          obtain ⟨m, hm, hmembers⟩ := equal_member h hd hd' hw
          rw [hm]
          intro p hp
          obtain ⟨q, hq, hp⟩ := List.mem_flatMap.mp hp
          obtain ⟨harray, rfl⟩ := mem_dependency.mp hp
          obtain ⟨v, hv, hsame⟩ := hmembers q hq
          refine ⟨v, List.mem_flatMap.mpr ⟨_, hv, mem_dependency.mpr ⟨?_, rfl⟩⟩, hsame⟩
          exact Value.ne_array_of_same hsame harray
      | _ => exact matched_nil _

/-- The schemas inside a schema have their equals inside an equal schema, at the same places. -/
theorem matched_inside : Matched (inside own) (inside members) := by
  have hsingle := matched_single h
  have hlisted := matched_listed h
  refine Matched.append ?_ (Matched.append ?_ ?_)
  · exact (hsingle "not").append ((hsingle "if").append ((hsingle "then").append
      ((hsingle "else").append ((hlisted "allOf").append ((hlisted "anyOf").append
        (hlisted "oneOf"))))))
  · exact (matched_items h).append ((hsingle "additionalItems").append (hsingle "contains"))
  · exact (matched_named h hd hd' "properties").append
      ((matched_named h hd hd' "patternProperties").append
        ((hsingle "additionalProperties").append ((matched_dependencies h hd hd').append
          (hsingle "propertyNames"))))

end

end Subschemas

/-! ## Forms of equal values -/

namespace Value

/-- What equals a value of the form has it, too. -/
def Respects (form : Value → Bool) : Prop :=
  ∀ v w : Value, v.same w = true → v.Distinct → w.Distinct → form v = true → form w = true

theorem same_number {v : Value} {n : Number} (h : v.same (.number n) = true) :
    ∃ m, v = .number m ∧ m.same n = true := by
  cases v with
  | number m => exact ⟨m, rfl, by rwa [same] at h⟩
  | _ => simp [same] at h

theorem same_bool {v : Value} {b : Bool} (h : v.same (.bool b) = true) : v = .bool b := by
  cases v with
  | bool c => rw [same] at h; rw [eq_of_beq h]
  | _ => simp [same] at h

theorem same_string {v : Value} {s : String} (h : v.same (.string s) = true) : v = .string s := by
  cases v with
  | string t => rw [same] at h; rw [eq_of_beq h]
  | _ => simp [same] at h

theorem same_null {v : Value} (h : v.same .null = true) : v = .null := by
  cases v with
  | null => rfl
  | _ => simp [same] at h

/-- Only numbers, arrays and objects can be written in several ways. -/
theorem respects_of {form : Value → Bool}
    (hnumber : ∀ m n : Number, m.same n = true → form (.number m) = true →
      form (.number n) = true)
    (harray : ∀ own items : List Value, List.Forall₂ (fun a b => a.same b = true) own items →
      (Value.array own).Distinct → (Value.array items).Distinct → form (.array own) = true →
        form (.array items) = true)
    (hobject : ∀ own members : Members Value,
      (∀ p ∈ members, ∃ v, (p.1, v) ∈ own ∧ v.same p.2 = true) → (Value.object own).Distinct →
        (Value.object members).Distinct → form (.object own) = true →
          form (.object members) = true) : Respects form := by
  intro v w h hd hd' hv
  cases w with
  | null => rwa [same_null h] at hv
  | bool b => rwa [same_bool h] at hv
  | string s => rwa [same_string h] at hv
  | number n =>
      obtain ⟨m, rfl, hsame⟩ := same_number h
      exact hnumber m n hsame hv
  | array items =>
      obtain ⟨own, rfl, hsame⟩ := same_array h
      exact harray own items hsame hd hd' hv
  | object members =>
      obtain ⟨own, rfl, _⟩ := same_object h
      refine hobject own members (fun p hp => ?_) hd hd' hv
      have hp := Members.get?_of_mem (distinct_object.mp hd').1 hp
      obtain ⟨u, hu, hsame⟩ := Subschemas.equals_of_same hd h hp
      exact ⟨u, Members.mem_of_get? hu, hsame⟩

/-- A form that only looks at how a value begins. -/
theorem respects_shape {form : Value → Bool}
    (hnumber : ∀ m n, form (.number m) = form (.number n))
    (harray : ∀ as bs, form (.array as) = form (.array bs))
    (hobject : ∀ as bs, form (.object as) = form (.object bs)) : Respects form :=
  respects_of (fun m n _ h => hnumber m n ▸ h) (fun as bs _ _ _ h => harray as bs ▸ h)
    (fun as bs _ _ _ h => hobject as bs ▸ h)

theorem respects_or {form form' : Value → Bool} (h : Respects form) (h' : Respects form') :
    Respects fun v => form v || form' v := by
  intro v w hsame hd hd' hv
  rw [Bool.or_eq_true] at hv ⊢
  exact hv.imp (h v w hsame hd hd') (h' v w hsame hd hd')

theorem respects_listOf {form : Value → Bool} (h : Respects form) : Respects (isListOf form) := by
  refine respects_of (fun _ _ _ hv => hv) (fun own items hsame hd hd' hv => ?_)
    (fun _ _ _ _ _ hv => hv)
  rw [distinct_array] at hd hd'
  show items.all form = true
  replace hv : own.all form = true := hv
  rw [List.all_eq_true] at hv ⊢
  induction hsame with
  | nil => exact fun w hw => absurd hw List.not_mem_nil
  | cons hab _ ih =>
      rw [List.forall_mem_cons] at hd hd' hv ⊢
      exact ⟨h _ _ hab hd.1 hd'.1 hv.1, ih hd.2 hd'.2 hv.2⟩

theorem respects_nonempty : Respects isNonempty := by
  refine respects_of (fun _ _ _ hv => hv) (fun own items hsame _ _ hv => ?_)
    (fun _ _ _ _ _ hv => hv)
  cases hsame with
  | nil => exact hv
  | cons _ _ => rfl

theorem respects_objectOf {form : String → Value → Bool} (h : ∀ name, Respects (form name)) :
    Respects (isObjectOf form) := by
  refine respects_of (fun _ _ _ hv => hv) (fun _ _ _ _ _ hv => hv)
    (fun own members hmembers hd hd' hv => ?_)
  have hd := (distinct_object.mp hd).2
  have hd' := (distinct_object.mp hd').2
  refine List.all_eq_true.mpr fun p hp => ?_
  obtain ⟨v, hmem, hsame⟩ := hmembers p hp
  exact h p.1 v p.2 hsame (hd _ hmem) (hd' _ hp) (List.all_eq_true.mp hv _ hmem)

theorem respects_positive : Respects isPositive := by
  refine respects_of (fun m n hsame hv => ?_) (fun _ _ _ _ _ hv => hv) (fun _ _ _ _ _ hv => hv)
  have hunits := Number.units_of_same hsame
  have hpos := of_decide_eq_true hv
  rw [hunits] at hpos
  exact decide_eq_true hpos

theorem respects_count : Respects isCount := by
  refine respects_of (fun m n hsame hv => ?_) (fun _ _ _ _ _ hv => hv) (fun _ _ _ _ _ hv => hv)
  exact decide_eq_true ((Number.isCount_of_same hsame).mp (of_decide_eq_true hv))

end Value

open Value in
/-- No form in the grammar tells equal values apart. -/
theorem respects_grammar (base : BaseUri) : ∀ p ∈ grammar base, Respects p.2 := by
  have htext : Respects isText := respects_shape (fun _ _ => rfl) (fun _ _ => rfl) fun _ _ => rfl
  have hname : Respects isTypeName :=
    respects_shape (fun _ _ => rfl) (fun _ _ => rfl) fun _ _ => rfl
  have hschema : Respects isSchema :=
    respects_shape (fun _ _ => rfl) (fun _ _ => rfl) fun _ _ => rfl
  have hbool : Respects isBool := respects_shape (fun _ _ => rfl) (fun _ _ => rfl) fun _ _ => rfl
  have hnumber : Respects isNumber :=
    respects_shape (fun _ _ => rfl) (fun _ _ => rfl) fun _ _ => rfl
  have hpattern : Respects isPattern :=
    respects_shape (fun _ _ => rfl) (fun _ _ => rfl) fun _ _ => rfl
  have href : Respects (isReference base) :=
    respects_shape (fun _ _ => rfl) (fun _ _ => rfl) fun _ _ => rfl
  -- where any value will do, there is nothing to tell
  have hany : ∀ b : Bool, Respects fun _ => b := fun b _ _ _ _ _ h => h
  have hlist := respects_listOf (hany true)
  have htexts := respects_listOf htext
  have htypes : Respects isTypes := respects_or hname (respects_listOf hname)
  have hitems : Respects isItems := respects_or hlist hschema
  have hdependency : Respects isDependency := respects_or htexts hschema
  have hcount := respects_count
  have hmembers := respects_objectOf fun _ => hany true
  have hpatterns := respects_objectOf fun text => hany (Pattern.ofText? text).isSome
  have hdependencies := respects_objectOf fun _ => hdependency
  have hlists := respects_nonempty
  simp only [grammar, List.forall_mem_cons]
  exact ⟨href, htypes, hlist, hlists, hlists, hlists, respects_positive, hnumber, hnumber, hnumber,
    hnumber, hcount, hcount, hpattern, hitems, hcount, hcount, hbool, hcount, hcount, htexts,
    hmembers, hpatterns, hdependencies, fun _ h => absurd h List.not_mem_nil⟩

/-- **What equals a well-formed schema is well-formed.** -/
theorem formed_of_same {base : BaseUri} {v w : Value} (h : v.same w = true) (hd : v.Distinct)
    (hd' : w.Distinct) (hv : v.formed base = true) : w.formed base = true := by
  cases w with
  | null => rwa [Value.same_null h] at hv
  | bool b => rfl
  | number n =>
      obtain ⟨m, rfl, _⟩ := Value.same_number h
      exact nomatch hv
  | string s => rwa [Value.same_string h] at hv
  | array items =>
      obtain ⟨own, rfl, _⟩ := Value.same_array h
      exact nomatch hv
  | object members =>
      obtain ⟨own, rfl, _⟩ := Value.same_object h
      rw [Value.formed_object] at hv ⊢
      intro p hp
      cases hw : Members.get? members p.1 with
      | none => rfl
      | some w =>
          -- the keyword is there on the other side, and its value is equal
          obtain ⟨u, hu, hsame⟩ := Subschemas.equals_of_same hd h hw
          have hform := hv p hp
          rw [hu] at hform
          have hdu := (Value.distinct_object.mp hd).2 _ (Members.mem_of_get? hu)
          have hdw := (Value.distinct_object.mp hd').2 _ (Members.mem_of_get? hw)
          exact respects_grammar base p hp u w hsame hdu hdw hform

/-! ## Bases of equal documents -/

/-- The members with the name are both absent, or they are equal. -/
theorem rel_get?_of_same {own members : Members Value} (hd : (Value.object own).Distinct)
    (h : (Value.object own).same (.object members) = true) (name : String) :
    Option.Rel (fun v w => v.same w = true) (own.get? name) (members.get? name) := by
  cases hw : members.get? name with
  | some w =>
      obtain ⟨v, hv, hsame⟩ := Subschemas.equals_of_same hd h hw
      rw [hv]
      exact .some hsame
  | none =>
      cases hv : own.get? name with
      | none => exact .none
      | some v =>
          -- what is there on the left has its equal on the right
          obtain ⟨_, heq, _, hsame⟩ := Value.same_object h
          cases heq
          obtain ⟨w, hw', _⟩ := Value.get?_of_sameMembers hsame _ (Members.mem_of_get? hv)
          rw [hw] at hw'
          exact nomatch hw'

theorem optional_congr {α : Type} {own members : Members Value} {keyword : String}
    {read : Value → Except Flaw α}
    (h : Option.Rel (fun v w => read v = read w) (own.get? keyword) (members.get? keyword))
    (here : Target) :
    Compile.optional own keyword read here = Compile.optional members keyword read here := by
  unfold Compile.optional
  generalize own.get? keyword = o, members.get? keyword = o' at h
  cases h with
  | none => rfl
  | some hread => dsimp only; rw [hread]

theorem asString_of_same {v w : Value} (h : v.same w = true) :
    Compile.asString v = Compile.asString w := by
  cases w with
  | string s => rw [Value.same_string h]
  | null => rw [Value.same_null h]
  | bool b => rw [Value.same_bool h]
  | number n => obtain ⟨m, rfl, _⟩ := Value.same_number h; rfl
  | array items => obtain ⟨own, rfl, _⟩ := Value.same_array h; rfl
  | object members => obtain ⟨own, rfl, _⟩ := Value.same_object h; rfl

/-- **Equal documents have the same base**, or the same flaw. -/
theorem documentBase_of_same {base : BaseUri} {v w : Value} (h : v.same w = true)
    (hd : v.Distinct) : Compile.documentBase base v = Compile.documentBase base w := by
  cases w with
  | object members =>
      obtain ⟨own, rfl, _⟩ := Value.same_object h
      unfold Compile.documentBase
      refine congrArg (· >>= _) (optional_congr ?_ _)
      have hid := rel_get?_of_same hd h "$id"
      generalize Members.get? own "$id" = o, Members.get? members "$id" = o' at hid ⊢
      cases hid with
      | none => exact .none
      | some hsame => exact .some (by rw [asString_of_same hsame])
  | string s => rw [Value.same_string h]
  | null => rw [Value.same_null h]
  | bool b => rw [Value.same_bool h]
  | number n => obtain ⟨m, rfl, _⟩ := Value.same_number h; rfl
  | array items => obtain ⟨own, rfl, _⟩ := Value.same_array h; rfl

end JsonSchema
