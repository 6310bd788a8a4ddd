import JsonSchema.Proofs.Basic
import JsonSchema.Proofs.Direct.Distinct
import JsonSchema.Yaml.ToJson
import Mathlib.Data.List.Dedup
import Mathlib.Data.List.Induction

/-!
# What the conversion of YAML keeps

A JSON value mirrors a YAML value if it has the same shape: the tags are gone, the keys have become
names, and every element and every entry is still there, in its place.

The entries of a mapping are set one after the other, so an entry is overwritten if a later one has
a key with the same text, such as `1` and `"1"`, which are different keys in YAML. Whatever is
converted is mirrored exactly if there are no such keys in any mapping.
-/

namespace JsonSchema

/-! ## Setting members one after the other -/

namespace Members

variable {α : Type}

/-- Sets members one after the other. -/
def setAll (done named : Members α) : Members α :=
  named.foldl (fun members p => members.set p.1 p.2) done

theorem set_of_new {members : Members α} {name : String} (h : name ∉ members.map Prod.fst) (a : α) :
    members.set name a = members ++ [(name, a)] := by
  induction members with
  | nil => rfl
  | cons p rest ih =>
      obtain ⟨n, b⟩ := p
      rw [List.map_cons, List.mem_cons, not_or] at h
      rw [set, if_neg (Ne.symm h.1), ih h.2, List.cons_append]

theorem names_set (members : Members α) (name : String) (a : α) :
    (members.set name a).map Prod.fst = if name ∈ members.map Prod.fst then members.map Prod.fst
      else members.map Prod.fst ++ [name] := by
  induction members with
  | nil => rfl
  | cons p rest ih =>
      obtain ⟨n, b⟩ := p
      rw [set]
      by_cases hn : n = name
      · rw [if_pos hn, List.map_cons, List.map_cons, if_pos (List.mem_cons.mpr (.inl hn.symm))]
      · rw [if_neg hn, List.map_cons, List.map_cons, ih]
        simp only [List.mem_cons, Ne.symm hn, false_or]
        split <;> rfl

theorem setAll_concat (done named : Members α) (p : String × α) :
    setAll done (named ++ [p]) = (setAll done named).set p.1 p.2 := by
  unfold setAll
  rw [List.foldl_append]
  rfl

theorem distinct_setAll (named : Members α) : (setAll [] named).Distinct := by
  induction named using List.reverseRecOn with
  | nil => exact List.nodup_nil
  | append_singleton named p ih => rw [setAll_concat]; exact ih.set p.1 p.2

/-- Members with names of their own all stay. -/
theorem setAll_of_distinct {named : Members α} (h : named.Distinct) : setAll [] named = named := by
  induction named using List.reverseRecOn with
  | nil => rfl
  | append_singleton named p ih =>
      rw [Distinct, List.map_append, List.map_singleton, ← List.concat_eq_append,
        List.nodup_concat] at h
      rw [setAll_concat, ih h.2, set_of_new h.1]

/-- Each name stands where it came first. -/
theorem names_setAll (named : Members α) :
    (setAll [] named).map Prod.fst = (named.map Prod.fst).reverse.dedup.reverse := by
  induction named using List.reverseRecOn with
  | nil => rfl
  | append_singleton named p ih =>
      rw [setAll_concat, names_set, ih, List.map_append, List.map_singleton, List.reverse_append,
        List.reverse_singleton, List.singleton_append]
      by_cases hmem : p.1 ∈ (named.map Prod.fst).reverse
      · rw [List.dedup_cons_of_mem hmem,
          if_pos (List.mem_reverse.mpr (List.mem_dedup.mpr hmem))]
      · rw [List.dedup_cons_of_notMem hmem, List.reverse_cons,
          if_neg fun h => hmem (List.mem_dedup.mp (List.mem_reverse.mp h))]

/-- The last value that is set under a name is the one that it has. -/
theorem get?_setAll (named : Members α) (name : String) :
    (setAll [] named).get? name = get? named.reverse name := by
  induction named using List.reverseRecOn with
  | nil => rfl
  | append_singleton named p ih =>
      rw [setAll_concat, get?_set, List.reverse_append, List.reverse_singleton,
        List.singleton_append, get?_cons, ih]

end Members

namespace Yaml.YamlValue

/-! ## Shape -/

mutual

/-- The JSON value has the shape of the YAML value without its tags. -/
inductive Mirrors : YamlValue → Value → Prop
  | null : Mirrors .null .null
  | bool (b : Bool) : Mirrors (.bool b) (.bool b)
  | number (n : Number) : Mirrors (.number (.finite n)) (.number n)
  | string (s : String) : Mirrors (.string s) (.string s)
  /-- An array has as many elements as the sequence, in the same order. -/
  | sequence {items : List YamlValue} {vs : List Value} :
      MirrorsItems items vs → Mirrors (.sequence items) (.array vs)
  /-- An object has a member for each entry of the mapping, in the same order. -/
  | mapping {entries : List (YamlValue × YamlValue)} {members : Members Value} :
      MirrorsEntries entries members → Mirrors (.mapping entries) (.object members)
  | tagged (tag : String) {y : YamlValue} {j : Value} : Mirrors y j → Mirrors (.tagged tag y) j

/-- The elements have the same shapes. -/
inductive MirrorsItems : List YamlValue → List Value → Prop
  | nil : MirrorsItems [] []
  | cons {y : YamlValue} {v : Value} {items : List YamlValue} {vs : List Value} :
      Mirrors y v → MirrorsItems items vs → MirrorsItems (y :: items) (v :: vs)

/-- The members have the names that the keys stand for, and the shapes of the values. -/
inductive MirrorsEntries : List (YamlValue × YamlValue) → Members Value → Prop
  | nil : MirrorsEntries [] []
  | cons {key y : YamlValue} {name : String} {v : Value} {entries : List (YamlValue × YamlValue)}
      {members : Members Value} : memberName key = .ok name → Mirrors y v →
      MirrorsEntries entries members → MirrorsEntries ((key, y) :: entries) ((name, v) :: members)

end

/-- The names that the keys of a mapping stand for. -/
def names (entries : List (YamlValue × YamlValue)) : List String :=
  entries.filterMap fun entry => (memberName entry.1).toOption

mutual

/-- In no mapping of the value two keys stand for the same name. -/
def KeysApart : YamlValue → Prop
  | .sequence items => KeysApartItems items
  | .mapping entries => (names entries).Nodup ∧ KeysApartEntries entries
  | .tagged _ y => KeysApart y
  | _ => True

/-- The same of the elements. -/
def KeysApartItems : List YamlValue → Prop
  | [] => True
  | y :: rest => KeysApart y ∧ KeysApartItems rest

/-- The same of the values of the entries. -/
def KeysApartEntries : List (YamlValue × YamlValue) → Prop
  | [] => True
  | (_, y) :: rest => KeysApart y ∧ KeysApartEntries rest

end

/-! ## Conversion -/

/-- The member is what the entry is converted to on its own. -/
def Converts (entry : YamlValue × YamlValue) (p : String × Value) : Prop :=
  memberName entry.1 = .ok p.1 ∧ toJson entry.2 = .ok p.2

theorem toJsonItems_eq_ok {items : List YamlValue} {vs : List Value}
    (h : toJsonItems items = .ok vs) : List.Forall₂ (fun y v => toJson y = .ok v) items vs := by
  induction items generalizing vs with
  | nil => cases h; exact .nil
  | cons y rest ih =>
      obtain ⟨v, hv, h⟩ := bind_eq_ok h
      obtain ⟨ws, hws, h⟩ := bind_eq_ok h
      cases h
      exact .cons hv (ih hws)

/-- The entries are converted one by one, and then set one after the other. -/
theorem toJsonEntries_eq_ok {entries : List (YamlValue × YamlValue)} {done members : Members Value}
    (h : toJsonEntries done entries = .ok members) :
    ∃ named, List.Forall₂ Converts entries named ∧ members = done.setAll named := by
  induction entries generalizing done with
  | nil => cases h; exact ⟨[], .nil, rfl⟩
  | cons entry rest ih =>
      obtain ⟨name, hname, h⟩ := bind_eq_ok h
      obtain ⟨v, hv, h⟩ := bind_eq_ok h
      obtain ⟨named, hnamed, rfl⟩ := ih h
      exact ⟨(name, v) :: named, .cons ⟨hname, hv⟩ hnamed, rfl⟩

theorem names_cons {key : YamlValue} {name : String} (h : memberName key = .ok name)
    (y : YamlValue) (rest : List (YamlValue × YamlValue)) :
    names ((key, y) :: rest) = name :: names rest :=
  List.filterMap_cons_some (by rw [h]; rfl)

theorem names_of_converts {entries : List (YamlValue × YamlValue)} {named : Members Value}
    (h : List.Forall₂ Converts entries named) : named.map Prod.fst = names entries := by
  induction h with
  | nil => rfl
  | cons hentry _ ih => rw [List.map_cons, ih, names_cons hentry.1]

theorem names_of_mirrors {entries : List (YamlValue × YamlValue)} {members : Members Value}
    (h : MirrorsEntries entries members) : members.map Prod.fst = names entries := by
  induction entries generalizing members with
  | nil => cases h; rfl
  | cons entry rest ih =>
      cases h with
      | cons hname _ hrest => rw [List.map_cons, ih hrest, names_cons hname]

mutual

/-- **The shape is kept exactly if the keys are apart.** -/
theorem mirrors_iff (y : YamlValue) {j : Value} (h : toJson y = .ok j) :
    Mirrors y j ↔ KeysApart y := by
  match y with
  | .null => cases h; exact iff_of_true .null trivial
  | .bool b => cases h; exact iff_of_true (.bool b) trivial
  | .number (.finite n) => cases h; exact iff_of_true (.number n) trivial
  | .string s => cases h; exact iff_of_true (.string s) trivial
  | .sequence items =>
      obtain ⟨vs, hvs, h⟩ := bind_eq_ok h
      cases h
      have hitems := mirrorsItems_iff items (toJsonItems_eq_ok hvs)
      refine ⟨fun hm => ?_, fun hk => .sequence (hitems.mpr hk)⟩
      cases hm with
      | sequence hm => exact hitems.mp hm
  | .mapping entries =>
      obtain ⟨members, hmembers, h⟩ := bind_eq_ok h
      cases h
      obtain ⟨named, hnamed, rfl⟩ := toJsonEntries_eq_ok hmembers
      have hentries := mirrorsEntries_iff entries hnamed
      have hset : (names entries).Nodup → Members.setAll [] named = named := by
        intro hapart
        rw [← names_of_converts hnamed] at hapart
        exact Members.setAll_of_distinct hapart
      constructor
      · intro hm
        cases hm with
        | mapping hm =>
            -- in the object no name occurs twice, and it has the names of the entries
            have hapart : (names entries).Nodup := by
              rw [← names_of_mirrors hm]
              exact Members.distinct_setAll named
            rw [hset hapart] at hm
            exact ⟨hapart, hentries.mp hm⟩
      · rintro ⟨hapart, hk⟩
        rw [hset hapart]
        exact .mapping (hentries.mpr hk)
  | .tagged tag y =>
      have hy := mirrors_iff y h
      refine ⟨fun hm => ?_, fun hk => .tagged tag (hy.mpr hk)⟩
      cases hm with
      | tagged _ hm => exact hy.mp hm

theorem mirrorsItems_iff (items : List YamlValue) {vs : List Value}
    (h : List.Forall₂ (fun y v => toJson y = .ok v) items vs) :
    MirrorsItems items vs ↔ KeysApartItems items := by
  match items, h with
  | [], .nil => exact iff_of_true .nil trivial
  | y :: rest, .cons hv hrest =>
      have hy := mirrors_iff y hv
      have hitems := mirrorsItems_iff rest hrest
      refine ⟨fun hm => ?_, fun ⟨hk, hks⟩ => .cons (hy.mpr hk) (hitems.mpr hks)⟩
      cases hm with
      | cons hm hms => exact ⟨hy.mp hm, hitems.mp hms⟩

theorem mirrorsEntries_iff (entries : List (YamlValue × YamlValue)) {named : Members Value}
    (h : List.Forall₂ Converts entries named) :
    MirrorsEntries entries named ↔ KeysApartEntries entries := by
  match entries, h with
  | [], .nil => exact iff_of_true .nil trivial
  | (key, y) :: rest, .cons hentry hrest =>
      have hy := mirrors_iff y hentry.2
      have hentries := mirrorsEntries_iff rest hrest
      refine ⟨fun hm => ?_, fun ⟨hk, hks⟩ => .cons hentry.1 (hy.mpr hk) (hentries.mpr hks)⟩
      cases hm with
      | cons _ hm hms => exact ⟨hy.mp hm, hentries.mp hms⟩

end

/-- **The conversion loses nothing exactly if the keys are apart.** In a mapping where they are not,
a name stands where the first entry with it stood, and has the value of the last one. -/
theorem toJson_loses_nothing_iff (y : YamlValue) (j : Value) (h : y.toJson = .ok j) :
    (y.Mirrors j ↔ y.KeysApart) ∧
    ∀ entries (members : Members Value), y = .mapping entries → j = .object members →
      ∃ named : Members Value, List.Forall₂ Converts entries named ∧
        members.map Prod.fst = (named.map Prod.fst).reverse.dedup.reverse ∧
        ∀ name, members.get? name = Members.get? named.reverse name := by
  refine ⟨mirrors_iff y h, ?_⟩
  rintro entries members rfl rfl
  obtain ⟨_, hmembers, h⟩ := bind_eq_ok h
  cases h
  obtain ⟨named, hnamed, rfl⟩ := toJsonEntries_eq_ok hmembers
  exact ⟨named, hnamed, Members.names_setAll named, Members.get?_setAll named⟩

/-- Keys of all three kinds, under a tag and in a sequence. -/
def threeKinds : YamlValue :=
  .mapping [(.string "list", .tagged "!odd" (.sequence [.null, .mapping
    [(.number (.finite (.integer 404)), .bool true), (.bool true, .string "x"),
      (.string "0", .null)]])), (.string "404", .string "one")]

/-- The number and the string are in different mappings, so they are apart. -/
theorem toJson_loses_nothing_threeKinds : ∃ j, threeKinds.toJson = .ok j ∧ threeKinds.Mirrors j ∧
    j = .object [("list", .array [.null, .object [("404", .bool true), ("true", .string "x"),
      ("0", .null)]]), ("404", .string "one")] := by
  have hkeys : threeKinds.KeysApart := by
    simp only [threeKinds, KeysApart, KeysApartEntries, KeysApartItems, true_and, and_true]
    decide
  have hj : threeKinds.toJson = .ok (.object [("list", .array [.null, .object [("404", .bool true),
    ("true", .string "x"), ("0", .null)]]), ("404", .string "one")]) := by
    rfl
  exact ⟨_, hj, (toJson_loses_nothing_iff threeKinds _ hj).1.mpr hkeys, rfl⟩

/-- A mapping with the keys `404` and `"404"`, which are different. -/
def numberAndString : YamlValue :=
  .mapping [(.number (.finite (.integer 404)), .string "one"), (.string "404", .string "two")]

/-- One of the two entries is lost. -/
theorem number_and_string_merge :
    same (.number (.finite (.integer 404))) (.string "404") = false ∧
      numberAndString.toJson = .ok (.object [("404", .string "two")]) ∧
      ¬ numberAndString.Mirrors (.object [("404", .string "two")]) := by
  refine ⟨rfl, rfl, fun h => ?_⟩
  cases h with
  | mapping h =>
      have hnames := congrArg List.length (names_of_mirrors h)
      exact absurd hnames (by decide)

end Yaml.YamlValue

end JsonSchema
