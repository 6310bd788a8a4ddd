import JsonSchema.Proofs.Compilation.Subschemas
import JsonSchema.Proofs.Direct.Distinct
import JsonSchema.Proofs.Direct.Documents

/-!
# The values inside a value

No name occurs twice in an object. So each schema inside a schema is the value that the way to it
leads to, and two equal objects have the same names, however their members are ordered.
-/

namespace JsonSchema

namespace Value

theorem height_lt_of_mem_items {items : List Value} {v : Value} (h : v ∈ items) :
    v.height < (Value.array items).height := by
  rw [height]
  induction items with
  | nil => exact absurd h List.not_mem_nil
  | cons w rest ih =>
      rw [heightOfItems]
      rcases List.mem_cons.mp h with rfl | h
      · omega
      · have hlt := ih h
        omega

theorem height_lt_of_mem_members {members : List (String × Value)} {p : String × Value}
    (h : p ∈ members) : p.2.height < (Value.object members).height := by
  rw [height]
  induction members with
  | nil => exact absurd h List.not_mem_nil
  | cons q rest ih =>
      rw [heightOfMembers]
      rcases List.mem_cons.mp h with rfl | h
      · omega
      · have hlt := ih h
        omega

end Value

namespace Pointer

/-- One step leads into the value. -/
theorem step_inside {v w : Value} {token : String} (h : step v token = some w) :
    w.height < v.height ∧ (v.Distinct → w.Distinct) := by
  cases v with
  | array items =>
      obtain ⟨i, _, hget⟩ := Option.bind_eq_some_iff.mp h
      have hmem := List.mem_of_getElem? hget
      exact ⟨Value.height_lt_of_mem_items hmem, fun hd => Value.distinct_array.mp hd w hmem⟩
  | object members =>
      have hmem := Members.mem_of_get? h
      exact ⟨Value.height_lt_of_mem_members hmem, fun hd => (Value.distinct_object.mp hd).2 _ hmem⟩
  | _ => exact nomatch h

theorem walk_inside {tokens : List String} {v w : Value} (h : walk tokens v = some w) :
    w.height + tokens.length ≤ v.height ∧ (v.Distinct → w.Distinct) := by
  induction tokens generalizing v with
  | nil => cases h; exact ⟨Nat.le_refl _, id⟩
  | cons token rest ih =>
      rw [walk_cons] at h
      obtain ⟨u, hu, hrest⟩ := Option.bind_eq_some_iff.mp h
      obtain ⟨hlt, hd⟩ := step_inside hu
      obtain ⟨hle, hd'⟩ := ih hrest
      rw [List.length_cons]
      -- one token, and one level down at least
      exact ⟨by omega, fun h => hd' (hd h)⟩

theorem walk_singleton (token : String) (v : Value) : walk [token] v = step v token := by
  rw [walk_cons]
  cases step v token <;> rfl

theorem walk_pair (token token' : String) (v : Value) :
    walk [token, token'] v = (step v token).bind fun w => step w token' := by
  rw [walk_cons]
  refine congrArg _ (funext fun w => ?_)
  exact walk_singleton token' w

theorem step_element (items : List Value) (i : Nat) :
    step (.array items) (toString i) = items[i]? := by
  show (index? (toString i).toList).bind _ = _
  rw [index?_toString]
  rfl

theorem step_member {members : Members Value} (hd : (Value.object members).Distinct) {name : String}
    {v : Value} (h : (name, v) ∈ members) : step (.object members) name = some v :=
  Members.get?_of_mem (Value.distinct_object.mp hd).1 h

end Pointer

/-! ## The schemas inside a schema -/

namespace Subschemas

/-- Everything in the list is what its way leads to, and the way leads down. -/
def Reached (members : Members Value) (l : List (List String × Value)) : Prop :=
  ∀ p ∈ l, p.1 ≠ [] ∧ Pointer.walk p.1 (.object members) = some p.2

variable {members : Members Value}

theorem Reached.append {l l' : List (List String × Value)} (h : Reached members l)
    (h' : Reached members l') : Reached members (l ++ l') := by
  intro p hp
  rcases List.mem_append.mp hp with hp | hp
  · exact h p hp
  · exact h' p hp

theorem reached_one {keyword : String} {v : Value} (h : members.get? keyword = some v) :
    Reached members [([keyword], v)] := by
  intro p hp
  rw [List.mem_singleton.mp hp, Pointer.walk_singleton]
  exact ⟨List.cons_ne_nil _ _, h⟩

theorem reached_single (members : Members Value) (keyword : String) :
    Reached members (single members keyword) := by
  unfold single
  split
  · exact fun p hp => absurd hp List.not_mem_nil
  · rename_i h
    exact reached_one h

theorem reached_elements {keyword : String} {schemas : List Value}
    (h : members.get? keyword = some (.array schemas)) :
    Reached members (elements keyword schemas) := by
  intro p hp
  obtain ⟨⟨v, i⟩, hv, rfl⟩ := List.mem_map.mp hp
  refine ⟨List.cons_ne_nil _ _, ?_⟩
  rw [Pointer.walk_pair]
  show (members.get? keyword).bind _ = some v
  rw [h, Option.bind_some, Pointer.step_element]
  exact List.mem_zipIdx_iff_getElem?.mp hv

theorem reached_listed (members : Members Value) (keyword : String) :
    Reached members (listed members keyword) := by
  unfold listed
  split
  · rename_i h
    exact reached_elements h
  · exact fun p hp => absurd hp List.not_mem_nil

theorem reached_items (members : Members Value) : Reached members (items members) := by
  unfold items
  split
  · exact fun p hp => absurd hp List.not_mem_nil
  · rename_i h
    exact reached_elements h
  · rename_i h
    exact reached_one h

/-- A member of the value of a keyword. -/
theorem walk_member (hd : (Value.object members).Distinct) {keyword name : String}
    {m : Members Value} {v : Value} (h : members.get? keyword = some (.object m))
    (hv : (name, v) ∈ m) : Pointer.walk [keyword, name] (.object members) = some v := by
  have hm := (Value.distinct_object.mp hd).2 _ (Members.mem_of_get? h)
  rw [Pointer.walk_pair]
  show (members.get? keyword).bind _ = some v
  rw [h]
  exact Pointer.step_member hm hv

theorem reached_named (hd : (Value.object members).Distinct) (keyword : String) :
    Reached members (named members keyword) := by
  unfold named
  split
  · rename_i h
    intro p hp
    obtain ⟨⟨name, v⟩, hv, rfl⟩ := List.mem_map.mp hp
    exact ⟨List.cons_ne_nil _ _, walk_member hd h hv⟩
  · exact fun p hp => absurd hp List.not_mem_nil

theorem mem_dependency {name : String} {v : Value} {p : List String × Value} :
    p ∈ dependency name v ↔ (∀ items, v ≠ .array items) ∧ p = (["dependencies", name], v) := by
  unfold dependency
  split
  · simp
  · rename_i h
    rw [List.mem_singleton]
    exact ⟨fun hp => ⟨fun items he => h items he, hp⟩, fun hp => hp.2⟩

theorem reached_dependencies (hd : (Value.object members).Distinct) :
    Reached members (dependencies members) := by
  unfold dependencies
  split
  · rename_i h
    intro p hp
    obtain ⟨⟨name, v⟩, hv, hp⟩ := List.mem_flatMap.mp hp
    rw [(mem_dependency.mp hp).2]
    exact ⟨List.cons_ne_nil _ _, walk_member hd h hv⟩
  · exact fun p hp => absurd hp List.not_mem_nil

/-- **A schema inside a schema is what the way to it leads to.** -/
theorem reached_inside (hd : (Value.object members).Distinct) :
    Reached members (inside members) := by
  have hsingle := reached_single members
  have hlisted := reached_listed members
  refine Reached.append ?_ (Reached.append ?_ ?_)
  · exact (hsingle "not").append ((hsingle "if").append ((hsingle "then").append
      ((hsingle "else").append ((hlisted "allOf").append ((hlisted "anyOf").append
        (hlisted "oneOf"))))))
  · exact (reached_items members).append ((hsingle "additionalItems").append (hsingle "contains"))
  · exact (reached_named hd "properties").append ((reached_named hd "patternProperties").append
      ((hsingle "additionalProperties").append ((reached_dependencies hd).append
        (hsingle "propertyNames"))))

/-- A schema inside a schema is lower. -/
theorem Inside.height_lt {v : Value} (h : Inside members v) :
    v.height < (Value.object members).height := by
  have hmember : ∀ {keyword w}, members.get? keyword = some w →
      w.height < (Value.object members).height :=
    fun hw => Value.height_lt_of_mem_members (Members.mem_of_get? hw)
  cases h with
  | single _ hv => exact hmember hv
  | listed _ hschemas hv =>
      exact Nat.lt_trans (Value.height_lt_of_mem_items hv) (hmember hschemas)
  | positional hschemas hv =>
      exact Nat.lt_trans (Value.height_lt_of_mem_items hv) (hmember hschemas)
  | items hv _ => exact hmember hv
  | named _ hm hv => exact Nat.lt_trans (Value.height_lt_of_mem_members hv) (hmember hm)
  | dependency hm hv _ => exact Nat.lt_trans (Value.height_lt_of_mem_members hv) (hmember hm)

theorem height_lt_of_mem_inside {p : List String × Value} (hp : p ∈ inside members) :
    p.2.height < (Value.object members).height :=
  (exists_mem_inside.mp ⟨p.1, hp⟩).height_lt

end Subschemas

end JsonSchema
