import JsonSchema.Proofs.Evaluation.Gathering
import JsonSchema.Proofs.Evaluation.Related
import JsonSchema.Proofs.Shuffled

/-!
# Answers that agree up to order

Two evaluations are concordant if they find the same whenever both of them succeed: the same
violations in some order, as long as there is no cap. Where there is one, as in a trial, which
violations are found first depends on the order; but as long as there is room for one, both find
something or neither does. So a trial is passed by both or by neither.

If the tasks of one list have concordant counterparts in another list, in whatever order these
stand, performing the lists is concordant.
-/

namespace JsonSchema

variable {ι κ : Type}

namespace Violations

/-- The list with more violations, whether there is room for them or not. -/
def extend (out : Violations) (l : List Violation) : Violations :=
  { out with found := out.found ++ l }

variable {out : Violations} {l l' : List Violation}

theorem extend_nil (out : Violations) : out.extend [] = out := by
  unfold extend
  rw [List.append_nil]

theorem extend_inj (h : out.extend l = out.extend l') : l = l' :=
  List.append_cancel_left (congrArg found h)

theorem extend_eq_self (h : out.extend l = out) : l = [] :=
  extend_inj (h.trans (extend_nil out).symm)

theorem extend_append (out : Violations) (l l' : List Violation) :
    (out.extend l).extend l' = out.extend (l ++ l') := by
  unfold extend
  rw [List.append_assoc]

theorem Continues.exists_extend {out' : Violations} (h : out.Continues out') :
    ∃ l, out' = out.extend l := by
  obtain ⟨found, cap⟩ := out'
  obtain ⟨⟨l, hl⟩, hcap⟩ := h
  refine ⟨l, ?_⟩
  unfold extend
  dsimp only at hl hcap
  rw [hl, hcap]

/-- With nothing added in the end, nothing was added in between. -/
theorem Continues.eq_of_continues {out' : Violations} (h : out.Continues out')
    (h' : out'.Continues out) : out' = out := by
  obtain ⟨l, rfl⟩ := h.exists_extend
  obtain ⟨l', hl'⟩ := h'.exists_extend
  rw [extend_append] at hl'
  have hnil := List.append_eq_nil_iff.mp (extend_eq_self hl'.symm)
  rw [hnil.1, extend_nil]

theorem isFull_of_cap (h : out.cap = 0) : ¬ out.isFull = true :=
  (not_isFull_iff out).mpr (.inl h)

end Violations

theorem Gathers.exists_extend {f : Violations → Except EvalError Violations} (h : Gathers f)
    {out out' : Violations} (hok : f out = .ok out') : ∃ l, out' = out.extend l :=
  (h out out' hok).exists_extend

/-! ## Concordant evaluations -/

/-- Whenever both evaluations succeed, they find the same in some order. -/
structure Concordant (f f' : Violations → Except EvalError Violations) : Prop where
  /-- If there is room for a violation, both find something or neither does. -/
  finds : ∀ {out out' l l'}, ¬ out.isFull = true → ¬ out'.isFull = true →
    f out = .ok (out.extend l) → f' out' = .ok (out'.extend l') → (l = [] ↔ l' = [])
  /-- Without a cap both find the same. -/
  adds : ∀ {out out' l l'}, out.cap = 0 → out'.cap = 0 →
    f out = .ok (out.extend l) → f' out' = .ok (out'.extend l') → l.Perm l'

namespace Concordant

variable {f f' : Violations → Except EvalError Violations}

theorem symm (h : Concordant f f') : Concordant f' f where
  finds hout hout' hok hok' := (h.finds hout' hout hok' hok).symm
  adds hcap hcap' hok hok' := (h.adds hcap' hcap hok' hok).symm

/-- What never succeeds is concordant with everything. -/
theorem error (e : EvalError) (f' : Violations → Except EvalError Violations) :
    Concordant (fun _ => .error e) f' where
  finds _ _ hok := nomatch hok
  adds _ _ hok := nomatch hok

/-- Finding nothing. -/
theorem ok : Concordant Except.ok Except.ok where
  finds _ _ hok hok' := by
    rw [Violations.extend_eq_self (Except.ok.inj hok).symm,
      Violations.extend_eq_self (Except.ok.inj hok').symm]
  adds _ _ hok hok' := by
    rw [Violations.extend_eq_self (Except.ok.inj hok).symm,
      Violations.extend_eq_self (Except.ok.inj hok').symm]

/-- Adding the same violation. -/
theorem add (v : Violation) :
    Concordant (fun out => .ok (out.add v)) (fun out => .ok (out.add v)) := by
  have hadd : ∀ {out : Violations} {l : List Violation}, ¬ out.isFull = true →
      (Except.ok (out.add v) : Except EvalError Violations) = .ok (out.extend l) → l = [v] := by
    intro out l hout hok
    unfold Violations.add at hok
    rw [if_neg hout] at hok
    exact (Violations.extend_inj (Except.ok.inj hok)).symm
  refine ⟨fun hout hout' hok hok' => ?_, fun hcap hcap' hok hok' => ?_⟩
  · rw [hadd hout hok, hadd hout' hok']
  · rw [hadd (Violations.isFull_of_cap hcap) hok, hadd (Violations.isFull_of_cap hcap') hok']

/-- It is enough to be concordant with room for a violation. -/
theorem congr {g g' : Violations → Except EvalError Violations}
    (hf : ∀ out, ¬ out.isFull = true → f out = g out)
    (hf' : ∀ out, ¬ out.isFull = true → f' out = g' out) (h : Concordant g g') :
    Concordant f f' where
  finds hout hout' hok hok' := h.finds hout hout' (hf _ hout ▸ hok) (hf' _ hout' ▸ hok')
  adds hcap hcap' hok hok' :=
    h.adds hcap hcap' (hf _ (Violations.isFull_of_cap hcap) ▸ hok)
      (hf' _ (Violations.isFull_of_cap hcap') ▸ hok')

/-- Two evaluations that begin with trials, if these have the same answer when both succeed. -/
theorem after {m m' : Except EvalError Bool}
    {g g' : Bool → Violations → Except EvalError Violations}
    (hm : ∀ passed passed', m = .ok passed → m' = .ok passed' → passed = passed')
    (hg : ∀ passed, Concordant (g passed) (g' passed)) :
    Concordant (fun out => m >>= fun passed => g passed out)
      (fun out => m' >>= fun passed => g' passed out) := by
  refine ⟨fun hout hout' hok hok' => ?_, fun hcap hcap' hok hok' => ?_⟩
  · obtain ⟨passed, hpassed, hok⟩ := bind_eq_ok hok
    obtain ⟨passed', hpassed', hok'⟩ := bind_eq_ok hok'
    cases hm passed passed' hpassed hpassed'
    exact (hg passed).finds hout hout' hok hok'
  · obtain ⟨passed, hpassed, hok⟩ := bind_eq_ok hok
    obtain ⟨passed', hpassed', hok'⟩ := bind_eq_ok hok'
    cases hm passed passed' hpassed hpassed'
    exact (hg passed).adds hcap hcap' hok hok'

end Concordant

namespace Site

variable {R : Branch ι → Branch κ → Prop} {site : Site ι} {site' : Site κ}

/-! ## Tasks -/

/-- The sites have the same violations, and related branches have concordant answers. -/
structure Concords (R : Branch ι → Branch κ → Prop) (site : Site ι) (site' : Site κ) : Prop where
  /-- Violations are the same. -/
  violation : ∀ tokens, site.violation tokens = site'.violation tokens
  /-- Both gather. -/
  gathers : site.Gathers
  gathers' : site'.Gathers
  /-- Related branches have concordant answers. -/
  evaluate : ∀ {b c}, R b c → Concordant (site.evaluate b) (site'.evaluate c)

theorem Concords.reportIf (h : Concords R site site') (violated : Bool) (tokens : List String) :
    Concordant (fun out => .ok (site.reportIf violated tokens out))
      (fun out => .ok (site'.reportIf violated tokens out)) := by
  cases violated with
  | true =>
      have hadd := Concordant.add (site.violation tokens)
      unfold Site.reportIf
      rw [← h.violation]
      exact hadd
  | false => exact Concordant.ok

/-- A trial is passed if nothing is found. -/
theorem Gathers.passes (h : site.Gathers) {b : Branch ι} {passed : Bool}
    (hok : site.passes b = .ok passed) :
    ∃ l, site.evaluate b (.none 1) = .ok ((Violations.none 1).extend l) ∧
      (passed = true ↔ l = []) := by
  obtain ⟨out, hout, hpassed⟩ := passes_eq_ok.mp hok
  obtain ⟨l, rfl⟩ := (h.evaluate b).exists_extend hout
  refine ⟨l, hout, ?_⟩
  rw [← hpassed]
  exact List.isEmpty_iff

theorem Concords.passes (h : Concords R site site') {b : Branch ι} {c : Branch κ} (hbc : R b c)
    {passed passed' : Bool} (hb : site.passes b = .ok passed) (hc : site'.passes c = .ok passed') :
    passed = passed' := by
  obtain ⟨l, hl, hpassed⟩ := h.gathers.passes hb
  obtain ⟨l', hl', hpassed'⟩ := h.gathers'.passes hc
  have hroom : ¬ (Violations.none 1).isFull = true := by decide
  rw [Bool.eq_iff_iff, hpassed, hpassed']
  exact (h.evaluate hbc).finds hroom hroom hl hl'

theorem Concords.somePasses (h : Concords R site site') {bs : List (Branch ι)}
    {cs : List (Branch κ)} (hbs : List.Forall₂ R bs cs) {passed passed' : Bool}
    (hb : site.somePasses bs = .ok passed) (hc : site'.somePasses cs = .ok passed') :
    passed = passed' := by
  induction hbs with
  | nil =>
      cases hb
      cases hc
      rfl
  | cons hbc _ ih =>
      rw [Site.somePasses] at hb hc
      obtain ⟨first, hfirst, hb⟩ := bind_eq_ok hb
      obtain ⟨first', hfirst', hc⟩ := bind_eq_ok hc
      -- the first trials have the same outcome, so both go on or neither does
      cases h.passes hbc hfirst hfirst'
      cases first with
      | true =>
          cases hb
          cases hc
          rfl
      | false => exact ih hb hc

theorem Concords.onePasses (h : Concords R site site') {bs : List (Branch ι)}
    {cs : List (Branch κ)} (hbs : List.Forall₂ R bs cs) {passed passed' : Bool}
    (hb : site.onePasses bs = .ok passed) (hc : site'.onePasses cs = .ok passed') :
    passed = passed' := by
  induction hbs with
  | nil =>
      cases hb
      cases hc
      rfl
  | cons hbc hrest ih =>
      rw [Site.onePasses] at hb hc
      obtain ⟨first, hfirst, hb⟩ := bind_eq_ok hb
      obtain ⟨first', hfirst', hc⟩ := bind_eq_ok hc
      cases h.passes hbc hfirst hfirst'
      cases first with
      | true =>
          obtain ⟨more, hmore, hb⟩ := bind_eq_ok hb
          obtain ⟨more', hmore', hc⟩ := bind_eq_ok hc
          cases h.somePasses hrest hmore hmore'
          cases hb
          cases hc
          rfl
      | false => exact ih hb hc

theorem Concords.descendIf (h : Concords R site site') {o : Option (Branch ι)}
    {o' : Option (Branch κ)} (hrel : Option.Rel R o o') :
    Concordant (site.descendIf o) (site'.descendIf o') := by
  cases hrel with
  | none => exact Concordant.ok
  | some hbc => exact h.evaluate hbc

/-- **Related tasks are concordant.** -/
theorem Concords.perform (h : Concords R site site') {task : Task ι} {task' : Task κ}
    (ht : Task.Rel R task task') : Concordant (site.perform task) (site'.perform task') := by
  cases ht with
  | check violated tokens => exact h.reportIf violated tokens
  | descend hbc => exact h.evaluate hbc
  | @choose b c t e t' e' hbc ht he =>
      have hbranches : ∀ passed : Bool, Concordant
          (fun out => if passed then site.descendIf t out else site.descendIf e out)
          (fun out => if passed then site'.descendIf t' out else site'.descendIf e' out) := by
        intro passed
        cases passed with
        | true => exact h.descendIf ht
        | false => exact h.descendIf he
      exact Concordant.after (fun _ _ hb hc => h.passes hbc hb hc) hbranches
  | refute tokens hbc =>
      exact Concordant.after (fun _ _ hb hc => h.passes hbc hb hc) fun passed =>
        h.reportIf passed tokens
  | some tokens hbs =>
      exact Concordant.after (fun _ _ hb hc => h.somePasses hbs hb hc) fun passed =>
        h.reportIf (!passed) tokens
  | one tokens hbs =>
      exact Concordant.after (fun _ _ hb hc => h.onePasses hbs hb hc) fun passed =>
        h.reportIf (!passed) tokens

/-! ## Lists of tasks -/

/-- If nothing is found by a list of tasks, none of them finds anything. -/
theorem Gathers.perform_eq_of_performAll (hg : site.Gathers) {l : List (Task ι)} {out : Violations}
    (h : site.performAll l out = .ok out) : ∀ t ∈ l, site.perform t out = .ok out := by
  induction l with
  | nil => exact fun t ht => absurd ht List.not_mem_nil
  | cons t rest ih =>
      rw [performAll_cons] at h
      obtain ⟨mid, hmid, hrest⟩ := bind_eq_ok h
      have hout : mid = out :=
        (hg.perform t out mid hmid).eq_of_continues (hg.performAll rest mid out hrest)
      subst hout
      exact List.forall_mem_cons.mpr ⟨hmid, ih hrest⟩

/-- If no task of a list finds anything, nothing is found by the list. -/
theorem performAll_eq_of_perform {l : List (Task ι)} {out out' : Violations}
    (h : site.performAll l out = .ok out')
    (hidle : ∀ t ∈ l, ∀ mid, site.perform t out = .ok mid → mid = out) : out' = out := by
  induction l with
  | nil =>
      cases h
      rfl
  | cons t rest ih =>
      rw [performAll_cons] at h
      rw [List.forall_mem_cons] at hidle
      obtain ⟨mid, hmid, hrest⟩ := bind_eq_ok h
      cases hidle.1 mid hmid
      exact ih hrest hidle.2

/-- What a list of tasks finds is what its tasks find, one after the other. -/
theorem Gathers.parts (hg : site.Gathers) {l : List (Task ι)} {out out' : Violations}
    (h : site.performAll l out = .ok out') :
    ∃ parts, out' = out.extend parts.flatten ∧
      List.Forall₂ (fun t part => ∃ mid : Violations, mid.cap = out.cap ∧
        site.perform t mid = .ok (mid.extend part)) l parts := by
  induction l generalizing out with
  | nil =>
      cases h
      exact ⟨[], (Violations.extend_nil _).symm, .nil⟩
  | cons t rest ih =>
      rw [performAll_cons] at h
      obtain ⟨mid, hmid, hrest⟩ := bind_eq_ok h
      obtain ⟨part, rfl⟩ := (hg.perform t).exists_extend hmid
      obtain ⟨parts, rfl, hparts⟩ := ih hrest
      refine ⟨part :: parts, ?_, .cons ⟨out, rfl, hmid⟩ hparts⟩
      rw [Violations.extend_append, List.flatten_cons]

/-- Tasks that have concordant answers. -/
def Counterparts (site : Site ι) (site' : Site κ) (t : Task ι) (t' : Task κ) : Prop :=
  Concordant (site.perform t) (site'.perform t')

/-- If the tasks on the left find nothing, those on the right do not, either. -/
theorem finds_of_shuffled (hg : site.Gathers) (hg' : site'.Gathers) {l : List (Task ι)}
    {l' : List (Task κ)} (h : Shuffled (Counterparts site site') l l') {out out' : Violations}
    {found : List Violation} (hout : ¬ out.isFull = true) (hout' : ¬ out'.isFull = true)
    (hok : site.performAll l out = .ok out)
    (hok' : site'.performAll l' out' = .ok (out'.extend found)) : found = [] := by
  refine Violations.extend_eq_self (performAll_eq_of_perform hok' fun t' ht' mid hmid => ?_)
  obtain ⟨t, ht, hconcordant⟩ := h.exists_left ht'
  have hidle : site.perform t out = .ok (out.extend []) := by
    rw [out.extend_nil]
    exact hg.perform_eq_of_performAll hok t ht
  obtain ⟨part, rfl⟩ := (hg'.perform t').exists_extend hmid
  rw [(hconcordant.finds hout hout' hidle hmid).mp rfl]
  exact out'.extend_nil

/-- **Tasks with concordant counterparts in another list, in any order, are concordant.** -/
theorem concordant_performAll (hg : site.Gathers) (hg' : site'.Gathers) {l : List (Task ι)}
    {l' : List (Task κ)} (h : Shuffled (Counterparts site site') l l') :
    Concordant (site.performAll l) (site'.performAll l') where
  finds := by
    intro out out' found found' hout hout' hok hok'
    constructor
    · rintro rfl
      rw [out.extend_nil] at hok
      exact finds_of_shuffled hg hg' h hout hout' hok hok'
    · rintro rfl
      rw [out'.extend_nil] at hok'
      exact finds_of_shuffled hg' hg (h.symm.imp fun _ _ hc => hc.symm) hout' hout hok' hok
  adds := by
    intro out out' found found' hcap hcap' hok hok'
    obtain ⟨parts, hfound, hparts⟩ := hg.parts hok
    obtain ⟨parts', hfound', hparts'⟩ := hg'.parts hok'
    rw [Violations.extend_inj hfound, Violations.extend_inj hfound']
    obtain ⟨own, hperm, hrel⟩ := h
    -- the parts on the left, in the order of the tasks on the right
    obtain ⟨moved, hmoved, hpermuted⟩ := List.perm_comp_forall₂ hperm.symm hparts
    refine hpermuted.symm.flatten.trans (List.Perm.flatten_congr ?_)
    refine forall₂_square hrel hmoved hparts' fun hconcordant hpart hpart' => ?_
    obtain ⟨mid, hmid, hperform⟩ := hpart
    obtain ⟨mid', hmid', hperform'⟩ := hpart'
    exact hconcordant.adds (hmid.trans hcap) (hmid'.trans hcap') hperform hperform'

end Site

end JsonSchema
