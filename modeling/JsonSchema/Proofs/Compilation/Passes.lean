import JsonSchema.Proofs.Compilation.Linking
import Mathlib.Data.Set.Card
import Mathlib.Data.Set.Finite.Lattice

/-!
# How many passes linking takes

`Linking.passes` is given a bound. Here the passes follow one another without any, and they come to
an end nevertheless: a pass is followed by another one only if it has compiled the schema at a place
that no pass before it had dealt with, and there are finitely many places in the documents, because
a pointer writes each index in one way only. So the bound that `ofDocuments` gives is never used up.
-/

namespace JsonSchema

open Direct

/-! ## The places that pointers lead to -/

/-- Finitely many pointers lead anywhere in a document. -/
theorem Pointer.finite_resolving (document : Value) :
    {p : Pointer | ∃ v, p.resolve document = some v}.Finite := by
  refine ((List.finite_toSet document.ways).image Pointer.mk).subset fun p ⟨v, hv⟩ => ?_
  rw [Pointer.resolve_eq_walk] at hv
  exact ⟨p.tokens, Pointer.mem_ways_of_walk hv, rfl⟩

/-- The places in the documents. -/
def locations (documents : List Value) : Set Target :=
  {target | ∃ v, valueAt documents target = some v}

theorem mem_locations {documents : List Value} {target : Target} {document v : Value}
    (hdocument : documentAt documents target.base = some document)
    (hwalk : Pointer.walk target.pointer.tokens document = some v) :
    target ∈ locations documents := by
  refine ⟨v, ?_⟩
  unfold valueAt
  rw [hdocument]
  exact hwalk

/-- There are finitely many of them. -/
theorem finite_locations (documents : List Value) : (locations documents).Finite := by
  -- a place is a pointer that leads somewhere in a document, together with the base of that
  have hfinite := Set.Finite.biUnion (List.finite_toSet documents) fun document _ =>
    (Pointer.finite_resolving document).image fun p : Pointer =>
      (⟨(Compile.documentBase .anonymous document).toOption.getD .anonymous, p⟩ : Target)
  refine hfinite.subset fun target ⟨v, hv⟩ => ?_
  obtain ⟨document, hdocument, hwalk⟩ := Option.bind_eq_some_iff.mp hv
  obtain ⟨hmem, hbase⟩ := mem_of_documentAt hdocument
  refine Set.mem_biUnion hmem ⟨target.pointer, ⟨v, ?_⟩, ?_⟩
  · rw [Pointer.resolve_eq_walk]
    exact hwalk
  · rw [hbase]
    rfl

namespace Bundle

variable {stands : Target → Value → Prop} {documents : List Value} {kept : Members Value}

/-! ## Passes without a bound -/

/-- A pass that is followed by another one: some targets are missing, and the schema at one of them
at least is compiled. -/
structure Continues (kept : Members Value) (s s' : Linking) : Prop where
  opened : s.registry.link.1 ≠ []
  attempts : s.registry.link.1.foldlM (Linking.attempt kept) s.opened = .ok s'
  progressed : s'.progressed = true

/-- `Loop kept count s outcome` says that linking, which goes on until nothing is missing or nothing
has been compiled, ends with `outcome` after `count` passes. -/
inductive Loop (kept : Members Value) : Nat → Linking → Except SchemaError Linking → Prop
  | complete {s : Linking} : s.registry.link.1 = [] →
      Loop kept 1 s (.ok { s with registry := s.registry.link.2 })
  | idle {s s' : Linking} : s.registry.link.1 ≠ [] →
      s.registry.link.1.foldlM (Linking.attempt kept) s.opened = .ok s' →
      s'.progressed = false → Loop kept 1 s (.ok s')
  | failed {s : Linking} {e : SchemaError} : s.registry.link.1 ≠ [] →
      s.registry.link.1.foldlM (Linking.attempt kept) s.opened = .error e →
      Loop kept 1 s (.error e)
  | again {s s' : Linking} {count : Nat} {outcome : Except SchemaError Linking} :
      Continues kept s s' → Loop kept count s' outcome → Loop kept (count + 1) s outcome

theorem passes_succ (kept : Members Value) (bound : Nat) (s : Linking) :
    Linking.passes kept (bound + 1) s =
      if s.registry.link.1 = [] then .ok { s with registry := s.registry.link.2 }
      else s.registry.link.1.foldlM (Linking.attempt kept) s.opened >>= fun s' =>
        if s'.progressed then Linking.passes kept bound s' else .ok s' := by
  rw [Linking.passes]
  dsimp only
  by_cases hempty : s.registry.link.1 = []
  · rw [if_pos (List.isEmpty_iff.mpr hempty), if_pos hempty]
    rfl
  · rw [if_neg fun h => hempty (List.isEmpty_iff.mp h), if_neg hempty]
    rfl

/-- **A bound that is not below the number of passes makes no difference.** -/
theorem Loop.passes_eq {count bound : Nat} {s : Linking} {outcome : Except SchemaError Linking}
    (h : Loop kept count s outcome) (hbound : count ≤ bound) :
    Linking.passes kept bound s = outcome := by
  induction h generalizing bound with
  | complete hnone =>
      obtain ⟨bound, rfl⟩ := Nat.exists_eq_add_of_le' hbound
      rw [passes_succ, if_pos hnone]
  | idle hopened hattempts hidle =>
      obtain ⟨bound, rfl⟩ := Nat.exists_eq_add_of_le' hbound
      rw [passes_succ, if_neg hopened, hattempts]
      show (if _ then _ else _) = _
      rw [hidle, if_neg Bool.false_ne_true]
  | failed hopened hattempts =>
      obtain ⟨bound, rfl⟩ := Nat.exists_eq_add_of_le' hbound
      rw [passes_succ, if_neg hopened, hattempts]
      rfl
  | again hpass _ ih =>
      obtain ⟨bound, rfl⟩ := Nat.exists_eq_add_of_le' (Nat.le_trans (Nat.le_add_left 1 _) hbound)
      rw [passes_succ, if_neg hpass.opened, hpass.attempts]
      show (if _ then _ else _) = _
      rw [hpass.progressed, if_pos rfl]
      exact ih (Nat.le_of_add_le_add_right hbound)

/-- A pass ends linking, or another one follows. -/
theorem loop_or_continues (kept : Members Value) (s : Linking) :
    (∃ outcome, Loop kept 1 s outcome) ∨ ∃ s', Continues kept s s' := by
  by_cases hempty : s.registry.link.1 = []
  · exact .inl ⟨_, .complete hempty⟩
  · cases hattempts : s.registry.link.1.foldlM (Linking.attempt kept) s.opened with
    | error e => exact .inl ⟨_, .failed hempty hattempts⟩
    | ok s' =>
        cases hprogressed : s'.progressed with
        | false => exact .inl ⟨_, .idle hempty hattempts hprogressed⟩
        | true => exact .inr ⟨s', hempty, hattempts, hprogressed⟩

/-! ## What a pass compiles -/

/-- A target that makes the difference has not been dealt with before, and it leads to a value. -/
theorem new_of_attempt {s s' : Linking} {target : Target} (h : s.attempt kept target = .ok s')
    (hidle : s.progressed = false) (hprogressed : s'.progressed = true) :
    target.key ∉ s.attempted ∧ ∃ document v, kept.get? target.base.text = some document ∧
      Pointer.walk target.pointer.tokens document = some v := by
  have hnote : ∀ (t : Linking) (uri : String), (t.note uri).progressed = t.progressed := by
    intro t uri
    unfold Linking.note
    split <;> rfl
  unfold Linking.attempt at h
  split at h
  · cases h
    rw [hidle] at hprogressed
    exact nomatch hprogressed
  · rename_i hnew
    refine ⟨fun hmem => hnew (List.contains_iff_mem.mpr hmem), ?_⟩
    dsimp only at h
    cases hdocument : kept.get? target.base.text with
    | none =>
        rw [hdocument] at h
        cases h
        rw [hnote, hidle] at hprogressed
        exact nomatch hprogressed
    | some document =>
        rw [hdocument] at h
        dsimp only at h
        rw [Pointer.resolve_eq_walk] at h
        cases hwalk : Pointer.walk target.pointer.tokens document with
        | none =>
            rw [hwalk] at h
            cases h
            rw [hnote, hidle] at hprogressed
            exact nomatch hprogressed
        | some v => exact ⟨document, v, rfl, hwalk⟩

/-- If some targets make the difference, one of them does. -/
theorem exists_new_of_attempts (hs : Supports documents stands)
    (howner : ∀ base : BaseUri, kept.get? base.text = documentAt documents base)
    {targets : List Target} (hsought : ∀ target ∈ targets, Registry.Sought stands target)
    {s s' : Linking} (hgood : Good documents stands s)
    (h : targets.foldlM (Linking.attempt kept) s = .ok s') (hidle : s.progressed = false)
    (hprogressed : s'.progressed = true) :
    ∃ target ∈ targets, target ∈ locations documents ∧ target.key ∉ s.attempted := by
  induction targets generalizing s with
  | nil =>
      cases h
      rw [hidle] at hprogressed
      exact nomatch hprogressed
  | cons target rest ih =>
      rw [List.foldlM_cons] at h
      obtain ⟨s₁, hattempt, h⟩ := bind_eq_ok h
      rw [List.forall_mem_cons] at hsought
      cases hfirst : s₁.progressed with
      | true =>
          obtain ⟨hnew, document, v, hdocument, hwalk⟩ := new_of_attempt hattempt hidle hfirst
          rw [howner] at hdocument
          exact ⟨target, List.mem_cons_self, mem_locations hdocument hwalk, hnew⟩
      | false =>
          have hstep := advance_attempt hs howner hgood hsought.1 hattempt
          obtain ⟨later, hmem, hlocation, hnew⟩ := ih hsought.2 hstep.good h hfirst
          exact ⟨later, List.mem_cons_of_mem _ hmem, hlocation,
            fun hold => hnew (hstep.attempted _ hold)⟩

/-- What a pass has done that is followed by another one: the schema at some place has been
compiled, which had no node and had not been dealt with. -/
structure Compiles (documents : List Value) (s s' : Linking) (target : Target) : Prop where
  location : target ∈ locations documents
  fresh : target.key ∉ s.attempted
  missing : s.registry.lookup target.key = none
  attempted : target.key ∈ s'.attempted
  compiled : (s'.registry.lookup target.key).isSome = true

/-- **A pass that is followed by another one compiles something new.** -/
theorem Continues.compiles (hs : Supports documents stands)
    (howner : ∀ base : BaseUri, kept.get? base.text = documentAt documents base) {s s' : Linking}
    (hgood : Good documents stands s) (h : Continues kept s s') :
    ∃ target, Compiles documents s s' target := by
  have hpass := advance_pass hs howner hgood h.attempts
  obtain ⟨target, hmem, hlocation, hfresh⟩ := exists_new_of_attempts hs howner
    (fun _ ht => hgood.faithful.sought ht) hgood.opened h.attempts rfl h.progressed
  have hsettled := hpass.good.settled target (hpass.reached target hmem)
  unfold Settled at hsettled
  rw [absent_eq_none.mpr hlocation] at hsettled
  exact ⟨target, hlocation, hfresh, Registry.lookup_of_mem_link hmem, hpass.reached target hmem,
    hsettled⟩

theorem Continues.good (hs : Supports documents stands)
    (howner : ∀ base : BaseUri, kept.get? base.text = documentAt documents base) {s s' : Linking}
    (hgood : Good documents stands s) (h : Continues kept s s') : Good documents stands s' :=
  (advance_pass hs howner hgood h.attempts).good

theorem Continues.attempted (hs : Supports documents stands)
    (howner : ∀ base : BaseUri, kept.get? base.text = documentAt documents base) {s s' : Linking}
    (hgood : Good documents stands s) (h : Continues kept s s') :
    ∀ key ∈ s.attempted, key ∈ s'.attempted :=
  (advance_pass hs howner hgood h.attempts).attempted

theorem good_of_continues (hs : Supports documents stands)
    (howner : ∀ base : BaseUri, kept.get? base.text = documentAt documents base) {s s' : Linking}
    (hgood : Good documents stands s) (h : Relation.ReflTransGen (Continues kept) s s') :
    Good documents stands s' := by
  induction h with
  | refl => exact hgood
  | tail _ hpass ih => exact hpass.good hs howner ih

/-! ## The number of passes -/

/-- The places that have not been dealt with. -/
def untouched (documents : List Value) (s : Linking) : Set Target :=
  {target ∈ locations documents | target.key ∉ s.attempted}

theorem finite_untouched (documents : List Value) (s : Linking) :
    (untouched documents s).Finite :=
  (finite_locations documents).subset fun _ h => h.1

/-- Fewer places are left for the next pass. -/
theorem Continues.ncard_lt (hs : Supports documents stands)
    (howner : ∀ base : BaseUri, kept.get? base.text = documentAt documents base) {s s' : Linking}
    (hgood : Good documents stands s) (h : Continues kept s s') :
    (untouched documents s').ncard < (untouched documents s).ncard := by
  obtain ⟨target, hnew⟩ := h.compiles hs howner hgood
  refine Set.ncard_lt_ncard ⟨fun t ⟨hlocation, ht⟩ => ?_, fun hsub => ?_⟩
    (finite_untouched documents s)
  · exact ⟨hlocation, fun hold => ht (h.attempted hs howner hgood _ hold)⟩
  · exact (hsub ⟨hnew.location, hnew.fresh⟩).2 hnew.attempted

/-- The places are no more than the bound allows for. -/
theorem ncard_locations_le
    (howner : ∀ base : BaseUri, kept.get? base.text = documentAt documents base) :
    (locations documents).ncard ≤ placeCount kept := by
  have hkeys : Target.key '' locations documents ⊆ (placeKeys kept).toFinset := by
    rintro _ ⟨target, ⟨v, hv⟩, rfl⟩
    obtain ⟨document, hdocument, hwalk⟩ := Option.bind_eq_some_iff.mp hv
    rw [← howner] at hdocument
    exact List.mem_toFinset.mpr (key_mem_placeKeys hdocument hwalk)
  calc (locations documents).ncard
      = (Target.key '' locations documents).ncard :=
        (Set.ncard_image_of_injective _ fun _ _ => Target.key_injective).symm
    _ ≤ (placeKeys kept).toFinset.card := by
        rw [← Set.ncard_coe_finset]
        exact Set.ncard_le_ncard hkeys (Finset.finite_toSet _)
    _ ≤ (placeKeys kept).length := List.toFinset_card_le _
    _ = placeCount kept := length_placeKeys kept

/-- The passes come to an end, after at most one more than there are places left. -/
theorem exists_loop (hs : Supports documents stands)
    (howner : ∀ base : BaseUri, kept.get? base.text = documentAt documents base) {s : Linking}
    (hgood : Good documents stands s) :
    ∃ count outcome, Loop kept count s outcome ∧ count ≤ (untouched documents s).ncard + 1 := by
  -- by induction on the number of places that are left
  induction hleft : (untouched documents s).ncard using Nat.strong_induction_on generalizing s with
  | _ left ih =>
      rcases loop_or_continues kept s with ⟨outcome, hlast⟩ | ⟨s', hpass⟩
      · exact ⟨1, outcome, hlast, Nat.le_add_left 1 left⟩
      · have hlt := hpass.ncard_lt hs howner hgood
        rw [hleft] at hlt
        obtain ⟨count, outcome, hloop, hcount⟩ := ih _ hlt (hpass.good hs howner hgood) rfl
        exact ⟨count + 1, outcome, .again hpass hloop,
          Nat.succ_le_succ (Nat.le_trans hcount hlt)⟩

theorem untouched_start (documents : List Value) (s : Roots) :
    untouched documents (start s) = locations documents :=
  Set.sep_eq_self_iff_mem_true.mpr fun _ _ => List.not_mem_nil

/-- **Linking ends** after at most one more pass than there are places in the documents. Without a
bound it has the outcome that `ofDocuments` goes on with, and each pass that is followed by another
one compiles the schema at a place that no pass has dealt with before. -/
theorem linking_ends {s : Roots} (h : compileRoots documents = .ok s) :
    (locations documents).Finite ∧
      (∃ count outcome, Loop s.documents count (start s) outcome ∧
        count ≤ (locations documents).ncard + 1 ∧
        ofDocuments documents = outcome >>= fun linked =>
          if linked.undefined.isEmpty then .ok { registry := linked.registry, roots := s.roots }
          else .error (.unresolved linked.undefined)) ∧
      ∀ t t', Relation.ReflTransGen (Continues s.documents) (start s) t →
        Continues s.documents t t' → ∃ target, Compiles documents t t' target := by
  have hs := supports_true documents
  have hinv := rootsOf_compileRoots hs h
  refine ⟨finite_locations documents, ?_, fun t t' hpasses hpass => ?_⟩
  · obtain ⟨count, outcome, hloop, hcount⟩ := exists_loop hs hinv.owner (good_start hinv)
    rw [untouched_start] at hcount
    refine ⟨count, outcome, hloop, hcount, ?_⟩
    -- the bound is beyond the number of passes
    have hbound : count ≤ placeCount s.documents + 1 :=
      Nat.le_trans hcount (Nat.succ_le_succ (ncard_locations_le hinv.owner))
    unfold ofDocuments
    rw [h]
    show (Linking.passes s.documents (placeCount s.documents + 1) (start s) >>= _) = _
    rw [hloop.passes_eq hbound]
    rfl
  · exact hpass.compiles hs hinv.owner (good_of_continues hs hinv.owner (good_start hinv) hpasses)

/-- Two definitions that refer to each other, and one that refers into a keyword. -/
def circular : Value :=
  .object [("$ref", .string "#/definitions/a"),
    ("definitions", .object [
      ("a", .object [("allOf", .array [.object [("$ref", .string "#/definitions/b/not")]])]),
      ("b", .object [("not", .object [("$ref", .string "#/definitions/a/allOf/0")])])])]

theorem linking_ends_circular : ∃ s count linked,
    compileRoots [circular] = .ok s ∧ Loop s.documents count (start s) (.ok linked) ∧
      count ≤ (locations [circular]).ncard + 1 ∧ linked.undefined = [] := by
  have haccepted : (ofDocuments [circular]).toOption.isSome = true := by decide +kernel
  cases hroots : compileRoots [circular] with
  | error e =>
      unfold ofDocuments at haccepted
      rw [hroots] at haccepted
      exact nomatch haccepted
  | ok s =>
      obtain ⟨_, ⟨count, outcome, hloop, hcount, hof⟩, _⟩ := linking_ends hroots
      rw [hof] at haccepted
      cases outcome with
      | error e => exact nomatch haccepted
      | ok linked =>
          refine ⟨s, count, linked, rfl, hloop, hcount, ?_⟩
          by_contra hsome
          change Except.toOption (if _ then _ else _) |>.isSome at haccepted
          rw [if_neg fun h => hsome (List.isEmpty_iff.mp h)] at haccepted
          exact nomatch haccepted

end Bundle

end JsonSchema
