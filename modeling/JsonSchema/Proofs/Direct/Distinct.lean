import JsonSchema.Json.Value
import Mathlib.Data.List.Nodup

/-!
# No name occurs twice

The members of an object are a list, but no name occurs twice in it. Whatever is built by setting
one member after the other is of this kind.
-/

namespace JsonSchema

namespace Members

variable {α : Type}

theorem mem_set {members : Members α} {name : String} {a : α} {p : String × α}
    (h : p ∈ members.set name a) : p = (name, a) ∨ p ∈ members := by
  induction members with
  | nil => exact Or.inl (List.mem_singleton.mp h)
  | cons q rest ih =>
      obtain ⟨n, b⟩ := q
      rw [set] at h
      split at h
      · rename_i hn
        rcases List.mem_cons.mp h with rfl | h
        · exact Or.inl (by rw [hn])
        · exact Or.inr (List.mem_cons_of_mem _ h)
      · rcases List.mem_cons.mp h with rfl | h
        · exact Or.inr List.mem_cons_self
        · exact (ih h).imp id (List.mem_cons_of_mem _)

/-- Setting a member keeps names apart. -/
theorem Distinct.set {members : Members α} (hd : members.Distinct) (name : String) (a : α) :
    (members.set name a).Distinct := by
  induction members with
  | nil => exact List.nodup_singleton name
  | cons q rest ih =>
      obtain ⟨n, b⟩ := q
      rw [Distinct, List.map_cons, List.nodup_cons] at hd
      rw [Members.set]
      split
      · exact List.nodup_cons.mpr hd
      · rename_i hn
        refine List.nodup_cons.mpr ⟨fun hmem => ?_, ih hd.2⟩
        obtain ⟨p, hp, hname⟩ := List.mem_map.mp hmem
        rcases mem_set hp with rfl | hp
        · exact hn hname.symm
        · exact hd.1 (hname ▸ List.mem_map_of_mem hp)

end Members

namespace Value

mutual

/-- No name occurs twice in any object of the value. -/
def Distinct : Value → Prop
  | .array items => DistinctItems items
  | .object members => Members.Distinct members ∧ DistinctMembers members
  | _ => True

/-- No name occurs twice in any object of the elements. -/
def DistinctItems : List Value → Prop
  | [] => True
  | v :: rest => v.Distinct ∧ DistinctItems rest

/-- No name occurs twice in any object of the values of the members. -/
def DistinctMembers : List (String × Value) → Prop
  | [] => True
  | (_, v) :: rest => v.Distinct ∧ DistinctMembers rest

end

theorem distinctItems_iff {items : List Value} :
    DistinctItems items ↔ ∀ v ∈ items, v.Distinct := by
  induction items with
  | nil => simp [DistinctItems]
  | cons v rest ih => simp [DistinctItems, ih]

theorem distinctMembers_iff {members : List (String × Value)} :
    DistinctMembers members ↔ ∀ p ∈ members, p.2.Distinct := by
  induction members with
  | nil => simp [DistinctMembers]
  | cons p rest ih => simp [DistinctMembers, ih]

theorem distinct_array {items : List Value} :
    (Value.array items).Distinct ↔ ∀ v ∈ items, v.Distinct := by
  rw [Distinct, distinctItems_iff]

theorem distinct_object {members : Members Value} :
    (Value.object members).Distinct ↔ members.Distinct ∧ ∀ p ∈ members, p.2.Distinct := by
  rw [Distinct, distinctMembers_iff]

/-- Setting a member of an object. -/
theorem Distinct.set {members : Members Value} (hd : (Value.object members).Distinct)
    {name : String} {v : Value} (hv : v.Distinct) :
    (Value.object (members.set name v)).Distinct := by
  rw [distinct_object] at hd ⊢
  refine ⟨hd.1.set name v, fun p hp => ?_⟩
  rcases Members.mem_set hp with rfl | hp
  · exact hv
  · exact hd.2 p hp

theorem distinct_empty : (Value.object []).Distinct :=
  distinct_object.mpr ⟨List.nodup_nil, fun _ hp => absurd hp List.not_mem_nil⟩

end Value

end JsonSchema
