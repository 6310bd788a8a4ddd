import JsonSchema.Number.Basic
/-!
# JSON values

Schemas and instances are both JSON values. An object keeps its members in the order in which
they were written, and no name occurs twice in it.
-/

namespace JsonSchema

/-- A JSON value. -/
inductive Value where
  /-- The value `null`. -/
  | null
  /-- A truth value. -/
  | bool (b : Bool)
  /-- A number. -/
  | number (n : Number)
  /-- A string. -/
  | string (s : String)
  /-- An array. -/
  | array (items : List Value)
  /-- An object, its members in the order in which they were written. -/
  | object (members : List (String × Value))
deriving Inhabited, Repr

/-- The members of an object. -/
abbrev Members (α : Type) := List (String × α)

namespace Members

variable {α : Type}

/-- The value of the member called `name`. -/
def get? (members : Members α) (name : String) : Option α :=
  members.lookup name

theorem get?_cons (n name : String) (a : α) (rest : Members α) :
    get? ((n, a) :: rest) name = if name = n then some a else get? rest name := by
  unfold get?
  rw [List.lookup_cons]
  by_cases h : name = n
  · rw [if_pos h, h, beq_self_eq_true]
  · rw [if_neg h, beq_eq_false_iff_ne.mpr h]

/-- Whether there is a member called `name`. -/
def has (members : Members α) (name : String) : Bool :=
  (members.get? name).isSome

/-- Sets the member called `name`: in its old place if there is one, else at the end. -/
def set : Members α → String → α → Members α
  | [], name, a => [(name, a)]
  | (n, b) :: rest, name, a => if n = name then (n, a) :: rest else (n, b) :: set rest name a

theorem get?_set (members : Members α) (name : String) (a : α) (other : String) :
    (members.set name a).get? other = if other = name then some a else members.get? other := by
  induction members with
  | nil => exact get?_cons name other a []
  | cons p rest ih =>
      obtain ⟨n, b⟩ := p
      rw [set]
      by_cases hn : n = name
      · rw [if_pos hn, get?_cons, get?_cons, hn]
        split <;> rfl
      · rw [if_neg hn, get?_cons, get?_cons, ih]
        by_cases hother : other = n
        · rw [if_pos hother, if_neg (hother ▸ hn), if_pos hother]
        · rw [if_neg hother, if_neg hother]

/-- No name occurs twice. -/
def Distinct (members : Members α) : Prop := (members.map Prod.fst).Nodup

theorem mem_of_get? {members : Members α} {name : String} {a : α}
    (h : members.get? name = some a) : (name, a) ∈ members := by
  induction members with
  | nil => exact nomatch h
  | cons m rest ih =>
      obtain ⟨n, b⟩ := m
      rw [get?_cons] at h
      by_cases hn : name = n
      · rw [if_pos hn] at h
        cases h
        rw [hn]
        exact List.mem_cons_self
      · rw [if_neg hn] at h
        exact List.mem_cons_of_mem _ (ih h)

theorem get?_of_mem {members : Members α} (hd : members.Distinct) {name : String} {a : α}
    (h : (name, a) ∈ members) : members.get? name = some a := by
  induction members with
  | nil => exact absurd h List.not_mem_nil
  | cons m rest ih =>
      obtain ⟨n, b⟩ := m
      rw [Distinct, List.map_cons, List.nodup_cons] at hd
      rw [get?_cons]
      rcases List.mem_cons.mp h with heq | h
      · cases heq
        rw [if_pos rfl]
      · have hname : name ∈ rest.map Prod.fst := List.mem_map_of_mem h
        rw [if_neg, ih hd.2 h]
        exact fun hn => hd.1 (hn ▸ hname)

end Members

namespace Value

mutual

/-- The nesting height: a scalar has height `0`, a container one more than its tallest member. -/
def height : Value → Nat
  | .array items => heightOfItems items
  | .object members => heightOfMembers members
  | _ => 0

/-- The height of an array with these elements. -/
def heightOfItems : List Value → Nat
  | [] => 0
  | v :: rest => max (v.height + 1) (heightOfItems rest)

/-- The height of an object with these members. -/
def heightOfMembers : List (String × Value) → Nat
  | [] => 0
  | (_, v) :: rest => max (v.height + 1) (heightOfMembers rest)

end

mutual

/-- The number of places in the value: itself, and all places in its elements or members. -/
def places : Value → Nat
  | .array items => placesOfItems items + 1
  | .object members => placesOfMembers members + 1
  | _ => 1

/-- The number of places in all the elements. -/
def placesOfItems : List Value → Nat
  | [] => 0
  | v :: rest => v.places + placesOfItems rest

/-- The number of places in all the members. -/
def placesOfMembers : List (String × Value) → Nat
  | [] => 0
  | (_, v) :: rest => v.places + placesOfMembers rest

end

mutual

/-- Deep equality, with numbers compared by value and the order of members left aside: two
objects are equal when they have as many members and each member of the first has its equal under
the same name in the second. -/
def same : Value → Value → Bool
  | .null, .null => true
  | .bool a, .bool b => a == b
  | .number a, .number b => a.same b
  | .string a, .string b => a == b
  | .array as, .array bs => sameItems as bs
  | .object as, .object bs => as.length == bs.length && sameMembers as bs
  | _, _ => false

/-- Equality of arrays, element by element. -/
def sameItems : List Value → List Value → Bool
  | [], [] => true
  | a :: as, b :: bs => same a b && sameItems as bs
  | _, _ => false

/-- Every member on the left has its equal on the right. -/
def sameMembers : List (String × Value) → Members Value → Bool
  | [], _ => true
  | (name, a) :: as, bs =>
    (match bs.get? name with
      | some b => same a b
      | none => false) && sameMembers as bs

end

/-- Whether two different places of the list hold equal values. -/
def hasDuplicate : List Value → Bool
  | [] => false
  | v :: rest => rest.any (same v) || hasDuplicate rest

end Value

end JsonSchema
