import JsonSchema.Proofs.Direct.Inside

/-!
# Pointers and locations

A location in a value is told by numbers: which element or member to go to, and which one there, and
so on. A pointer leads to a location if each token is the name of the member or the printed index of
the element. Each location has one pointer that leads there, no pointer leads to two locations, and
looking a pointer up gives the value at its location, or nothing if there is none.
-/

namespace JsonSchema

namespace Value

/-- The elements of an array, or the values of the members of an object. -/
def children : Value → List Value
  | .array items => items
  | .object members => members.map Prod.snd
  | _ => []

/-- The value at a location. -/
def at? (location : List Nat) (v : Value) : Option Value :=
  location.foldlM (fun v i => v.children[i]?) v

theorem at?_cons (i : Nat) (rest : List Nat) (v : Value) :
    v.at? (i :: rest) = v.children[i]?.bind (at? rest) := List.foldlM_cons

theorem children_object {members : Members Value} {i : Nat} {v : Value} :
    (Value.object members).children[i]? = some v ↔ ∃ name, members[i]? = some (name, v) := by
  show (members.map Prod.snd)[i]? = some v ↔ _
  rw [List.getElem?_map, Option.map_eq_some_iff]
  constructor
  · rintro ⟨⟨name, w⟩, hp, rfl⟩
    exact ⟨name, hp⟩
  · rintro ⟨name, hp⟩
    exact ⟨_, hp, rfl⟩

end Value

/-- A name stands at one place only. -/
theorem Members.eq_of_getElem? {members : Members Value} (hd : members.Distinct) {name : String}
    {i j : Nat} {v w : Value} (hi : members[i]? = some (name, v))
    (hj : members[j]? = some (name, w)) : i = j := by
  have hname : ∀ {k : Nat} {u : Value}, members[k]? = some (name, u) →
      (members.map Prod.fst)[k]? = some name := by
    intro k u hk
    rw [List.getElem?_map, hk]
    rfl
  obtain ⟨hlt, _⟩ := List.getElem?_eq_some_iff.mp (hname hi)
  exact (List.getElem?_inj hlt hd).mp ((hname hi).trans (hname hj).symm)

namespace Pointer

/-- Different indices are printed differently. -/
theorem toString_inj {i j : Nat} (h : toString i = toString j) : i = j := by
  have hread := index?_toString i
  rw [h, index?_toString] at hread
  exact (Option.some.inj hread).symm

/-- Tokens lead through a document to a value. With them goes the location of that value. -/
inductive Leads : List String → Value → List Nat → Value → Prop
  /-- No token leads nowhere else. -/
  | here {v : Value} : Leads [] v [] v
  /-- An element is reached by its index, as it is printed. -/
  | element {items : List Value} {i : Nat} {token : String} {v w : Value} {rest : List String}
      {location : List Nat} : token = toString i → items[i]? = some v → Leads rest v location w →
      Leads (token :: rest) (.array items) (i :: location) w
  /-- A member is reached by its name. -/
  | member {members : Members Value} {i : Nat} {name : String} {v w : Value} {rest : List String}
      {location : List Nat} : members[i]? = some (name, v) → Leads rest v location w →
      Leads (name :: rest) (.object members) (i :: location) w

variable {document v v' : Value} {tokens tokens' : List String} {location location' : List Nat}

/-! ## Walking -/

theorem Leads.walk (h : Leads tokens document location v) (hd : document.Distinct) :
    Pointer.walk tokens document = some v := by
  induction h with
  | here => rfl
  | element htoken hv _ ih =>
      rw [walk_cons, htoken, step_element, hv]
      exact ih (Value.distinct_array.mp hd _ (List.mem_of_getElem? hv))
  | member hv _ ih =>
      have hmem := List.mem_of_getElem? hv
      rw [walk_cons, step_member hd hmem]
      exact ih ((Value.distinct_object.mp hd).2 _ hmem)

theorem exists_leads_of_walk (h : walk tokens document = some v) :
    ∃ location, Leads tokens document location v := by
  induction tokens generalizing document with
  | nil =>
      cases h
      exact ⟨[], .here⟩
  | cons token rest ih =>
      rw [walk_cons] at h
      obtain ⟨w, hw, hrest⟩ := Option.bind_eq_some_iff.mp h
      obtain ⟨location, hleads⟩ := ih hrest
      cases document with
      | null => exact nomatch hw
      | bool b => exact nomatch hw
      | number n => exact nomatch hw
      | string s => exact nomatch hw
      | array items =>
          obtain ⟨i, hi, hget⟩ := Option.bind_eq_some_iff.mp hw
          exact ⟨i :: location, .element (toString_of_index? hi) hget hleads⟩
      | object members =>
          obtain ⟨i, hi⟩ := List.mem_iff_getElem?.mp (Members.mem_of_get? hw)
          exact ⟨i :: location, .member hi hleads⟩

/-- **Looking a pointer up is going where it leads.** -/
theorem resolve_eq_some_iff (hd : document.Distinct) :
    resolve ⟨tokens⟩ document = some v ↔ ∃ location, Leads tokens document location v := by
  rw [resolve_eq_walk]
  exact ⟨exists_leads_of_walk, fun ⟨_, h⟩ => h.walk hd⟩

theorem resolve_append (tokens tokens' : List String) (document : Value) :
    resolve ⟨tokens ++ tokens'⟩ document =
      (resolve ⟨tokens⟩ document).bind (resolve ⟨tokens'⟩) := by
  rw [resolve_eq_walk, resolve_eq_walk, walk_append]
  exact congrArg _ (funext fun v => (resolve_eq_walk ⟨tokens'⟩ v).symm)

/-! ## One pointer for each location -/

theorem Leads.at? (h : Leads tokens document location v) : document.at? location = some v := by
  induction h with
  | here => rfl
  | element _ hv _ ih =>
      rw [Value.at?_cons]
      exact Option.bind_eq_some_iff.mpr ⟨_, hv, ih⟩
  | member hv _ ih =>
      rw [Value.at?_cons]
      exact Option.bind_eq_some_iff.mpr ⟨_, Value.children_object.mpr ⟨_, hv⟩, ih⟩

theorem exists_leads_of_at? (h : document.at? location = some v) :
    ∃ tokens, Leads tokens document location v := by
  induction location generalizing document with
  | nil =>
      cases h
      exact ⟨[], .here⟩
  | cons i rest ih =>
      rw [Value.at?_cons] at h
      obtain ⟨w, hw, hrest⟩ := Option.bind_eq_some_iff.mp h
      obtain ⟨tokens, hleads⟩ := ih hrest
      cases document with
      | null => exact nomatch hw
      | bool b => exact nomatch hw
      | number n => exact nomatch hw
      | string s => exact nomatch hw
      | array items => exact ⟨toString i :: tokens, .element rfl hw hleads⟩
      | object members =>
          obtain ⟨name, hi⟩ := Value.children_object.mp hw
          exact ⟨name :: tokens, .member hi hleads⟩

theorem Leads.tokens_eq (h : Leads tokens document location v)
    (h' : Leads tokens' document location v') : tokens = tokens' := by
  induction h generalizing tokens' with
  | here => cases h'; rfl
  | element htoken hv _ ih =>
      cases h' with
      | element htoken' hv' hrest' =>
          cases hv.symm.trans hv'
          rw [htoken, htoken', ih hrest']
  | member hv _ ih =>
      cases h' with
      | member hv' hrest' =>
          cases hv.symm.trans hv'
          rw [ih hrest']

theorem Leads.location_eq (h : Leads tokens document location v)
    (h' : Leads tokens document location' v') (hd : document.Distinct) : location = location' := by
  induction h generalizing location' with
  | here => cases h'; rfl
  | element htoken hv _ ih =>
      cases h' with
      | element htoken' hv' hrest' =>
          cases toString_inj (htoken.symm.trans htoken')
          cases hv.symm.trans hv'
          rw [ih hrest' (Value.distinct_array.mp hd _ (List.mem_of_getElem? hv))]
  | member hv _ ih =>
      cases h' with
      | member hv' hrest' =>
          obtain ⟨hnames, hvalues⟩ := Value.distinct_object.mp hd
          cases Members.eq_of_getElem? hnames hv hv'
          cases hv.symm.trans hv'
          rw [ih hrest' (hvalues _ (List.mem_of_getElem? hv))]

end Pointer

/-! ## All pointers that lead somewhere -/

namespace Value

theorem mem_waysOfItems_iff {i : Nat} {items : List Value} {way : List String} :
    way ∈ waysOfItems i items ↔
      ∃ j v rest, items[j]? = some v ∧ rest ∈ v.ways ∧ way = toString (i + j) :: rest := by
  refine ⟨fun h => ?_, fun ⟨j, v, rest, hv, hrest, hway⟩ => hway ▸ mem_waysOfItems hv hrest⟩
  induction items generalizing i with
  | nil => exact absurd h List.not_mem_nil
  | cons v rest ih =>
      rw [waysOfItems] at h
      rcases List.mem_append.mp h with h | h
      · obtain ⟨more, hmore, rfl⟩ := List.mem_map.mp h
        exact ⟨0, v, more, rfl, hmore, rfl⟩
      · obtain ⟨j, w, more, hw, hmore, rfl⟩ := ih h
        exact ⟨j + 1, w, more, hw, hmore, by rw [Nat.add_assoc, Nat.add_comm 1]⟩

theorem exists_of_mem_waysOfMembers {members : Members Value} {way : List String}
    (h : way ∈ waysOfMembers members) :
    ∃ name v rest, (name, v) ∈ members ∧ rest ∈ v.ways ∧ way = name :: rest := by
  induction members with
  | nil => exact absurd h List.not_mem_nil
  | cons p rest ih =>
      rw [waysOfMembers] at h
      rcases List.mem_append.mp h with h | h
      · obtain ⟨more, hmore, rfl⟩ := List.mem_map.mp h
        exact ⟨p.1, p.2, more, List.mem_cons_self, hmore, rfl⟩
      · obtain ⟨name, v, more, hv, hmore, hway⟩ := ih h
        exact ⟨name, v, more, List.mem_cons_of_mem _ hv, hmore, hway⟩

/-- Ways that begin with the same token differ behind it. -/
theorem nodup_map_cons {token : String} {ways : List (List String)} (h : ways.Nodup) :
    (ways.map (token :: ·)).Nodup :=
  List.Nodup.map (fun _ _ h => List.tail_eq_of_cons_eq h) h

mutual

/-- No way is listed twice. -/
theorem nodup_ways : ∀ v : Value, v.Distinct → v.ways.Nodup
  | .null, _ => List.nodup_singleton _
  | .bool _, _ => List.nodup_singleton _
  | .number _, _ => List.nodup_singleton _
  | .string _, _ => List.nodup_singleton _
  | .array items, hd => by
      rw [ways]
      refine List.nodup_cons.mpr ⟨fun h => ?_, nodup_waysOfItems 0 items (distinct_array.mp hd)⟩
      obtain ⟨_, _, _, _, _, hway⟩ := mem_waysOfItems_iff.mp h
      exact nomatch hway
  | .object members, hd => by
      rw [ways]
      obtain ⟨hnames, hvalues⟩ := distinct_object.mp hd
      refine List.nodup_cons.mpr ⟨fun h => ?_, nodup_waysOfMembers members hnames hvalues⟩
      obtain ⟨_, _, _, _, _, hway⟩ := exists_of_mem_waysOfMembers h
      exact nomatch hway

theorem nodup_waysOfItems : ∀ (i : Nat) (items : List Value), (∀ v ∈ items, v.Distinct) →
    (waysOfItems i items).Nodup
  | _, [], _ => List.nodup_nil
  | i, v :: rest, hd => by
      rw [waysOfItems]
      rw [List.forall_mem_cons] at hd
      refine List.nodup_append.mpr ⟨nodup_map_cons (nodup_ways v hd.1),
        nodup_waysOfItems (i + 1) rest hd.2, fun way hway way' hway' heq => ?_⟩
      -- the ways into the rest have greater indices
      obtain ⟨_, _, rfl⟩ := List.mem_map.mp hway
      obtain ⟨j, _, _, _, _, rfl⟩ := mem_waysOfItems_iff.mp hway'
      have hindex := Pointer.toString_inj (List.head_eq_of_cons_eq heq)
      omega

theorem nodup_waysOfMembers : ∀ members : List (String × Value), Members.Distinct members →
    (∀ p ∈ members, p.2.Distinct) → (waysOfMembers members).Nodup
  | [], _, _ => List.nodup_nil
  | (name, v) :: rest, hnames, hvalues => by
      rw [waysOfMembers]
      rw [Members.Distinct, List.map_cons, List.nodup_cons] at hnames
      rw [List.forall_mem_cons] at hvalues
      refine List.nodup_append.mpr ⟨nodup_map_cons (nodup_ways v hvalues.1),
        nodup_waysOfMembers rest hnames.2 hvalues.2, fun way hway way' hway' heq => ?_⟩
      -- the other members have other names
      obtain ⟨_, _, rfl⟩ := List.mem_map.mp hway
      obtain ⟨_, w, _, hw, _, rfl⟩ := exists_of_mem_waysOfMembers hway'
      have hname : name ∈ rest.map Prod.fst := by
        rw [List.head_eq_of_cons_eq heq]
        exact List.mem_map_of_mem hw
      exact hnames.1 hname

end

end Value

namespace Pointer

/-- Each of the ways leads to a place. -/
theorem exists_walk_of_mem_ways {document : Value} {tokens : List String}
    (h : tokens ∈ document.ways) (hd : document.Distinct) :
    ∃ v, walk tokens document = some v := by
  induction tokens generalizing document with
  | nil => exact ⟨document, rfl⟩
  | cons token rest ih =>
      have hstep : ∃ w, step document token = some w ∧ rest ∈ w.ways := by
        cases document with
        | null => exact nomatch List.mem_singleton.mp h
        | bool b => exact nomatch List.mem_singleton.mp h
        | number n => exact nomatch List.mem_singleton.mp h
        | string s => exact nomatch List.mem_singleton.mp h
        | array items =>
            rw [Value.ways] at h
            rcases List.mem_cons.mp h with h | h
            · exact nomatch h
            · obtain ⟨j, v, more, hv, hmore, heq⟩ := Value.mem_waysOfItems_iff.mp h
              cases heq
              rw [Nat.zero_add, step_element]
              exact ⟨v, hv, hmore⟩
        | object members =>
            rw [Value.ways] at h
            rcases List.mem_cons.mp h with h | h
            · exact nomatch h
            · obtain ⟨name, v, more, hv, hmore, heq⟩ := Value.exists_of_mem_waysOfMembers h
              cases heq
              exact ⟨v, step_member hd hv, hmore⟩
      obtain ⟨w, hw, hrest⟩ := hstep
      rw [walk_cons, hw]
      exact ih hrest ((step_inside hw).2 hd)

/-- **The ways are the pointers that are found.** -/
theorem mem_ways_iff {document : Value} (hd : document.Distinct) {tokens : List String} :
    tokens ∈ document.ways ↔ (resolve ⟨tokens⟩ document).isSome = true := by
  rw [resolve_eq_walk, Option.isSome_iff_exists]
  exact ⟨fun h => exists_walk_of_mem_ways h hd, fun ⟨_, h⟩ => mem_ways_of_walk h⟩

/-- **Looking a pointer up is walking along its tokens.** What is found is the value to which the
tokens lead, by the names of members and the printed indices of elements, and nothing is found if
they lead nowhere. The tokens of one pointer behind those of another one lead on from where that one
leads. There is one pointer for each location and one location for each pointer that leads anywhere,
and so there are as many of these pointers as places in the document. -/
theorem lookups_are_walks (document : Value) (hd : document.Distinct) :
    (∀ tokens v, resolve ⟨tokens⟩ document = some v ↔
      ∃ location, Leads tokens document location v) ∧
    (∀ tokens tokens', resolve ⟨tokens ++ tokens'⟩ document =
      (resolve ⟨tokens⟩ document).bind (resolve ⟨tokens'⟩)) ∧
    (∀ location v, document.at? location = some v ↔
      ∃ tokens, Leads tokens document location v) ∧
    (∀ tokens location v tokens' location' v', Leads tokens document location v →
      Leads tokens' document location' v' → (tokens = tokens' ↔ location = location')) ∧
    document.ways.Nodup ∧ document.ways.length = document.places ∧
    ∀ tokens, tokens ∈ document.ways ↔ (resolve ⟨tokens⟩ document).isSome = true := by
  refine ⟨fun tokens v => resolve_eq_some_iff hd,
    fun tokens tokens' => resolve_append tokens tokens' document,
    fun location v => ⟨exists_leads_of_at?, fun ⟨_, h⟩ => h.at?⟩,
    fun tokens location v tokens' location' v' h h' => ⟨?_, ?_⟩,
    document.nodup_ways hd, document.length_ways, fun tokens => mem_ways_iff hd⟩
  · rintro rfl
    exact h.location_eq h' hd
  · rintro rfl
    exact h.tokens_eq h'

/-- A document with names that have to be escaped, and one that looks like an escape. -/
def slashed : Value := .object [("a/b", .array [.null, .object [("~1", .bool true)]]), ("", .null)]

theorem lookups_are_walks_slashed : slashed.Distinct ∧
    Pointer.text ⟨["a/b", "1", "~1"]⟩ = "/a~1b/1/~01" ∧
    resolve ⟨["a/b", "1", "~1"]⟩ slashed = some (.bool true) ∧
    slashed.at? [0, 1, 0] = some (.bool true) ∧
    (∀ tokens location v, Leads tokens slashed location v → location = [0, 1, 0] →
      tokens = ["a/b", "1", "~1"]) ∧
    resolve ⟨["a/b", "01"]⟩ slashed = none ∧ slashed.places = 6 := by
  have hd : slashed.Distinct := by
    simp [slashed, Members.Distinct, Value.Distinct, Value.DistinctItems, Value.DistinctMembers]
  obtain ⟨hfound, _, hlocation, hone, _, hcount, hways⟩ := lookups_are_walks slashed hd
  have hleads : Leads ["a/b", "1", "~1"] slashed [0, 1, 0] (.bool true) :=
    .member rfl (.element (by decide) rfl (.member rfl .here))
  refine ⟨hd, by decide +kernel, (hfound _ _).mpr ⟨_, hleads⟩, (hlocation _ _).mpr ⟨_, hleads⟩,
    fun tokens location v h hplace => (hone _ _ _ _ _ _ h hleads).mpr hplace, ?_, ?_⟩
  · have hno : ["a/b", "01"] ∉ slashed.ways := by decide +kernel
    rw [hways] at hno
    exact Option.not_isSome_iff_eq_none.mp hno
  · rw [← hcount]
    decide +kernel

end Pointer

end JsonSchema
