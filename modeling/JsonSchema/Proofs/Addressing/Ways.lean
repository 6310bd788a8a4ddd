import JsonSchema.Proofs.Addressing.Pointer

/-!
# The ways into a value

A value has finitely many places, and a pointer that leads to one of them is one of finitely many
ways. There are as many ways as `Value.places` counts places.
-/

namespace JsonSchema

namespace Value

mutual

/-- The ways to all places in the value. -/
def ways : Value → List (List String)
  | .array items => [] :: waysOfItems 0 items
  | .object members => [] :: waysOfMembers members
  | _ => [[]]

/-- The ways into the elements, of which the first has the given index. -/
def waysOfItems : Nat → List Value → List (List String)
  | _, [] => []
  | i, v :: rest => v.ways.map (toString i :: ·) ++ waysOfItems (i + 1) rest

/-- The ways into the members. -/
def waysOfMembers : List (String × Value) → List (List String)
  | [] => []
  | (name, v) :: rest => v.ways.map (name :: ·) ++ waysOfMembers rest

end

mutual

/-- There is a way to each place. -/
theorem length_ways : ∀ v : Value, v.ways.length = v.places
  | .null => rfl
  | .bool _ => rfl
  | .number _ => rfl
  | .string _ => rfl
  | .array items => by rw [ways, places, List.length_cons, length_waysOfItems]
  | .object members => by rw [ways, places, List.length_cons, length_waysOfMembers]

theorem length_waysOfItems :
    ∀ (i : Nat) (items : List Value), (waysOfItems i items).length = placesOfItems items
  | _, [] => by rw [waysOfItems, placesOfItems, List.length_nil]
  | i, v :: rest => by
      rw [waysOfItems, placesOfItems, List.length_append, List.length_map, length_ways,
        length_waysOfItems]

theorem length_waysOfMembers :
    ∀ members : List (String × Value), (waysOfMembers members).length = placesOfMembers members
  | [] => by rw [waysOfMembers, placesOfMembers, List.length_nil]
  | (name, v) :: rest => by
      rw [waysOfMembers, placesOfMembers, List.length_append, List.length_map, length_ways,
        length_waysOfMembers]

end

theorem nil_mem_ways (v : Value) : [] ∈ v.ways := by
  cases v <;> simp [ways]

theorem mem_waysOfItems {items : List Value} {i j : Nat} {v : Value} {way : List String}
    (hv : items[j]? = some v) (h : way ∈ v.ways) :
    toString (i + j) :: way ∈ waysOfItems i items := by
  induction items generalizing i j with
  | nil => exact nomatch hv
  | cons w rest ih =>
      rw [waysOfItems, List.mem_append]
      cases j with
      | zero =>
          rw [List.getElem?_cons_zero, Option.some.injEq] at hv
          left
          rw [hv]
          exact List.mem_map_of_mem h
      | succ j =>
          right
          rw [← Nat.add_assoc, Nat.add_right_comm]
          -- the element has a smaller position in the rest, which starts one index later
          exact ih (by rwa [List.getElem?_cons_succ] at hv)

theorem mem_waysOfMembers {members : Members Value} {name : String} {v : Value}
    {way : List String} (hv : members.get? name = some v) (h : way ∈ v.ways) :
    name :: way ∈ waysOfMembers members := by
  induction members with
  | nil => exact nomatch hv
  | cons m rest ih =>
      obtain ⟨n, w⟩ := m
      rw [waysOfMembers, List.mem_append]
      rw [Members.get?_cons] at hv
      by_cases hn : name = n
      · rw [if_pos hn, Option.some.injEq] at hv
        left
        rw [hn, hv]
        exact List.mem_map_of_mem h
      · rw [if_neg hn] at hv
        exact Or.inr (ih hv)

end Value

namespace Pointer

theorem walk_cons (token : String) (rest : List String) (document : Value) :
    walk (token :: rest) document = (step document token).bind (walk rest) :=
  List.foldlM_cons

theorem walk_append (tokens tokens' : List String) (document : Value) :
    walk (tokens ++ tokens') document = (walk tokens document).bind (walk tokens') :=
  List.foldlM_append

/-- **Whatever leads to a place is one of the ways.** -/
theorem mem_ways_of_walk {tokens : List String} {document v : Value}
    (h : walk tokens document = some v) : tokens ∈ document.ways := by
  induction tokens generalizing document with
  | nil => exact document.nil_mem_ways
  | cons token rest ih =>
      rw [walk_cons] at h
      obtain ⟨w, hw, hrest⟩ := Option.bind_eq_some_iff.mp h
      have hway := ih hrest
      cases document with
      | null => exact nomatch hw
      | bool b => exact nomatch hw
      | number n => exact nomatch hw
      | string s => exact nomatch hw
      | array items =>
          obtain ⟨i, hi, hget⟩ := Option.bind_eq_some_iff.mp hw
          -- the token that leads to an element is its index as it is printed
          rw [toString_of_index? hi, Value.ways]
          have hmem := Value.mem_waysOfItems (i := 0) hget hway
          rw [Nat.zero_add] at hmem
          exact List.mem_cons_of_mem _ hmem
      | object members =>
          rw [Value.ways]
          exact List.mem_cons_of_mem _ (Value.mem_waysOfMembers hw hway)

end Pointer

end JsonSchema
