import JsonSchema.Proofs.Evaluation.Gathering
import JsonSchema.Validator

/-!
# Evaluation finds the verdict

If an evaluation has an answer, then it has found violations exactly when the verdict on the schema
and the value is negative. The induction is on how deep the evaluation goes, and it is about real
evaluation and trials at once: with any cap, and from any list that is not full, an answer either
leaves the list as it was, and then the schema is satisfied, or makes it longer, and then it is not.

A task asks what its keyword demands. For most keywords that is plain; the members of an object are
evaluated one by one, while the demands are sorted by keyword.
-/

namespace JsonSchema

variable {registry : Registry}

/-! ## What tasks ask -/

/-- What a branch asks. -/
def Branch.demand (b : Branch Nat) : Demand := .schema b.schema b.value

/-- What a task asks. -/
def Task.demand : Task Nat → Demand
  | check violated _ => .holds (!violated)
  | descend b => b.demand
  | follow _ schema v => .linked schema v
  | choose condition onPass onFail =>
    .branch condition.demand (.all (demandOf onPass Branch.demand))
      (.all (demandOf onFail Branch.demand))
  | refute b _ => .negation b.demand
  | some bs _ => .some (bs.map Branch.demand)
  | one bs _ => .one (bs.map Branch.demand)

/-- An answer from a list that is not full tells the verdict on a demand. -/
def Decides (registry : Registry) (ev : Violations → Except EvalError Violations) (d : Demand) :
    Prop :=
  ∀ out out', ¬ out.isFull = true → ev out = .ok out' →
    (out' = out ∧ Verdict registry d true) ∨
      (out.found.length < out'.found.length ∧ Verdict registry d false)

theorem none_one_not_isFull : ¬ (Violations.none 1).isFull = true := by
  simp [Violations.none, Violations.isFull]

namespace Verdict

theorem all_nil : Verdict registry (.all []) true :=
  all_pass fun _ h => absurd h List.not_mem_nil

theorem all_cons {d : Demand} {ds : List Demand} {b : Bool} (h : Verdict registry d true)
    (hs : Verdict registry (.all ds) b) : Verdict registry (.all (d :: ds)) b := by
  cases hs with
  | all_pass hp =>
      refine all_pass fun e he => ?_
      rcases List.mem_cons.mp he with rfl | he
      · exact h
      · exact hp e he
  | all_fail he hf => exact all_fail (List.mem_cons_of_mem _ he) hf

theorem some_cons {d : Demand} {ds : List Demand} {b : Bool} (h : Verdict registry d false)
    (hs : Verdict registry (.some ds) b) : Verdict registry (.some (d :: ds)) b := by
  cases hs with
  | some_pass he hp => exact some_pass (List.mem_cons_of_mem _ he) hp
  | some_fail hf =>
      refine some_fail fun e he => ?_
      rcases List.mem_cons.mp he with rfl | he
      · exact h
      · exact hf e he

/-- After one that is not met, exactly one of the rest counts. -/
theorem one_cons_fail {d : Demand} {ds : List Demand} {b : Bool} (h : Verdict registry d false)
    (hs : Verdict registry (.one ds) b) : Verdict registry (.one (d :: ds)) b := by
  cases hs with
  | @one_pass before after e hp hf =>
      refine @one_pass registry (d :: before) after e hp fun e' he' => ?_
      rcases List.mem_cons.mp he' with rfl | he'
      · exact h
      · exact hf e' he'
  | one_none hf =>
      refine one_none fun e he => ?_
      rcases List.mem_cons.mp he with rfl | he
      · exact h
      · exact hf e he
  | @one_two before between after e e' hp hp' =>
      exact @one_two registry (d :: before) between after e e' hp hp'

/-- After one that is met, none of the rest may be. -/
theorem one_cons_pass {d : Demand} {ds : List Demand} {b : Bool} (h : Verdict registry d true)
    (hs : Verdict registry (.some ds) b) : Verdict registry (.one (d :: ds)) (!b) := by
  cases hs with
  | @some_pass _ e he hp =>
      -- two are met, this one and one of the rest
      obtain ⟨between, after, rfl⟩ := List.append_of_mem he
      exact @one_two registry [] between after d e h hp
  | some_fail hf => exact @one_pass registry [] ds d h hf

end Verdict

namespace Site

variable {site : Site Nat}

/-- Everything that the site evaluates tells the verdict. -/
structure Decides (registry : Registry) (site : Site Nat) : Prop where
  /-- Sub-schemas do. -/
  evaluate : ∀ b, JsonSchema.Decides registry (site.evaluate b) b.demand
  /-- References do. -/
  follow : ∀ target schema v,
    JsonSchema.Decides registry (site.follow target schema v) (.linked schema v)

theorem Decides.passes (h : Decides registry site) {b : Branch Nat} {passed : Bool}
    (hok : site.passes b = .ok passed) : Verdict registry b.demand passed := by
  obtain ⟨out, hout, hempty⟩ := passes_eq_ok.mp hok
  -- the list of a trial is empty at first, so it stays empty or is longer at the end
  rcases h.evaluate b _ out none_one_not_isFull hout with ⟨rfl, hv⟩ | ⟨hlt, hv⟩
  · rw [← hempty]; exact hv
  · have hne : out.isEmpty = false :=
      List.isEmpty_eq_false_iff.mpr (List.ne_nil_of_length_pos (Nat.zero_lt_of_lt hlt))
    rw [← hempty, hne]; exact hv

theorem Decides.somePasses (h : Decides registry site) {bs : List (Branch Nat)} {passed : Bool}
    (hok : site.somePasses bs = .ok passed) :
    Verdict registry (.some (bs.map Branch.demand)) passed := by
  induction bs with
  | nil =>
      cases hok
      exact .some_fail fun _ he => absurd he List.not_mem_nil
  | cons b rest ih =>
      obtain ⟨first, hfirst, hok⟩ := bind_eq_ok hok
      have hb := h.passes hfirst
      cases first with
      | true => cases hok; exact .some_pass List.mem_cons_self hb
      | false => exact hb.some_cons (ih hok)

theorem Decides.onePasses (h : Decides registry site) {bs : List (Branch Nat)} {passed : Bool}
    (hok : site.onePasses bs = .ok passed) :
    Verdict registry (.one (bs.map Branch.demand)) passed := by
  induction bs with
  | nil =>
      cases hok
      exact .one_none fun _ he => absurd he List.not_mem_nil
  | cons b rest ih =>
      obtain ⟨first, hfirst, hok⟩ := bind_eq_ok hok
      have hb := h.passes hfirst
      cases first with
      | true =>
          -- the first one is met, so none of the rest may be
          obtain ⟨other, hother, hok⟩ := bind_eq_ok hok
          cases hok; exact hb.one_cons_pass (h.somePasses hother)
      | false => exact hb.one_cons_fail (ih hok)

theorem reportIf_cases (site : Site Nat) {d : Demand} {violated : Bool} {tokens : List String}
    {out : Violations} (hfull : ¬ out.isFull = true) (hv : Verdict registry d (!violated)) :
    (site.reportIf violated tokens out = out ∧ Verdict registry d true) ∨
      (out.found.length < (site.reportIf violated tokens out).found.length ∧
        Verdict registry d false) := by
  cases violated with
  | false => exact Or.inl ⟨rfl, hv⟩
  | true =>
      right
      refine ⟨?_, hv⟩
      show out.found.length < (out.add _).found.length
      rw [Violations.add, if_neg hfull]
      simp

theorem Decides.descendIf (h : Decides registry site) (b : Option (Branch Nat)) :
    JsonSchema.Decides registry (site.descendIf b) (.all (demandOf b Branch.demand)) := by
  intro out out' hfull hok
  cases b with
  | none => cases hok; exact Or.inl ⟨rfl, .all_nil⟩
  | some b =>
      rcases h.evaluate b out out' hfull hok with ⟨rfl, hv⟩ | ⟨hlt, hv⟩
      · exact Or.inl ⟨rfl, hv.all_cons .all_nil⟩
      · exact Or.inr ⟨hlt, .all_fail List.mem_cons_self hv⟩

/-- A task tells the verdict on what it asks. -/
theorem Decides.perform (h : Decides registry site) (task : Task Nat) :
    JsonSchema.Decides registry (site.perform task) task.demand := by
  intro out out' hfull hok
  cases task with
  | check violated tokens => cases hok; exact reportIf_cases site hfull (.holds _)
  | descend b => exact h.evaluate b out out' hfull hok
  | follow target schema v => exact h.follow target schema v out out' hfull hok
  | choose condition onPass onFail =>
      obtain ⟨passed, hpassed, hok⟩ := bind_eq_ok hok
      have hc := h.passes hpassed
      cases passed with
      | true =>
          rcases h.descendIf onPass out out' hfull hok with ⟨rfl, hv⟩ | ⟨hlt, hv⟩
          · exact Or.inl ⟨rfl, .onPass hc hv⟩
          · exact Or.inr ⟨hlt, .onPass hc hv⟩
      | false =>
          rcases h.descendIf onFail out out' hfull hok with ⟨rfl, hv⟩ | ⟨hlt, hv⟩
          · exact Or.inl ⟨rfl, .onFail hc hv⟩
          · exact Or.inr ⟨hlt, .onFail hc hv⟩
  | refute b tokens =>
      obtain ⟨passed, hpassed, hok⟩ := bind_eq_ok hok
      cases hok
      exact reportIf_cases site hfull (h.passes hpassed).negation
  | some bs tokens =>
      obtain ⟨passed, hpassed, hok⟩ := bind_eq_ok hok
      cases hok
      refine reportIf_cases site hfull ?_
      rw [Bool.not_not]; exact h.somePasses hpassed
  | one bs tokens =>
      obtain ⟨passed, hpassed, hok⟩ := bind_eq_ok hok
      cases hok
      refine reportIf_cases site hfull ?_
      rw [Bool.not_not]; exact h.onePasses hpassed

/-- Tasks performed in turn tell the verdict on all that they ask. Once the list is longer, the
verdict is settled, whether the rest is performed or not. -/
theorem Decides.performAll (h : Decides registry site) (hg : site.Gathers)
    (tasks : List (Task Nat)) :
    JsonSchema.Decides registry (site.performAll tasks) (.all (tasks.map Task.demand)) := by
  induction tasks with
  | nil => intro out out' _ hok; cases hok; exact Or.inl ⟨rfl, .all_nil⟩
  | cons task rest ih =>
      intro out out' hfull hok
      rw [performAll_cons] at hok
      obtain ⟨mid, hmid, hrest⟩ := bind_eq_ok hok
      rcases h.perform task out mid hfull hmid with ⟨rfl, hv⟩ | ⟨hlt, hv⟩
      · rcases ih mid out' hfull hrest with ⟨rfl, hvs⟩ | ⟨hlt, hvs⟩
        · exact Or.inl ⟨rfl, hv.all_cons hvs⟩
        · exact Or.inr ⟨hlt, hv.all_cons hvs⟩
      · -- the list is longer already, and the rest cannot make it shorter
        have hle := (hg.performAll rest mid out' hrest).length_le
        exact Or.inr ⟨Nat.lt_of_lt_of_le hlt hle, .all_fail List.mem_cons_self hv⟩

end Site

/-! ## The tasks of a node ask what its keywords demand -/

/-- The verdict on the first demands is the verdict on the others. -/
def Entails (registry : Registry) (ds ds' : List Demand) : Prop :=
  ∀ b, Verdict registry (.all ds) b → Verdict registry (.all ds') b

/-- The verdict on what the tasks ask is the verdict on the demands. -/
abbrev Covers (registry : Registry) (tasks : List (Task Nat)) (ds : List Demand) : Prop :=
  Entails registry (tasks.map Task.demand) ds

namespace Verdict

theorem all_left {ds ds' : List Demand} (h : Verdict registry (.all (ds ++ ds')) true) :
    Verdict registry (.all ds) true := by
  cases h with
  | all_pass hp => exact all_pass fun d hd => hp d (List.mem_append_left _ hd)

theorem all_right {ds ds' : List Demand} (h : Verdict registry (.all (ds ++ ds')) true) :
    Verdict registry (.all ds') true := by
  cases h with
  | all_pass hp => exact all_pass fun d hd => hp d (List.mem_append_right _ hd)

/-- All of two lists, in two parts. -/
theorem all_append_iff {ds ds' : List Demand} {b : Bool} :
    Verdict registry (.all (ds ++ ds')) b ↔
      if b then Verdict registry (.all ds) true ∧ Verdict registry (.all ds') true
      else Verdict registry (.all ds) false ∨ Verdict registry (.all ds') false := by
  cases b with
  | true =>
      refine ⟨fun h => ⟨h.all_left, h.all_right⟩, fun ⟨h, h'⟩ => ?_⟩
      cases h with
      | all_pass hp =>
          cases h' with
          | all_pass hp' =>
              refine all_pass fun d hd => ?_
              rcases List.mem_append.mp hd with hd | hd
              · exact hp d hd
              · exact hp' d hd
  | false =>
      refine ⟨fun h => ?_, fun h => ?_⟩
      · cases h with
        | all_fail hd hf =>
            rcases List.mem_append.mp hd with hd | hd
            · exact Or.inl (all_fail hd hf)
            · exact Or.inr (all_fail hd hf)
      · rcases h with h | h
        · cases h with | all_fail hd hf => exact all_fail (List.mem_append_left _ hd) hf
        · cases h with | all_fail hd hf => exact all_fail (List.mem_append_right _ hd) hf

/-- A conjunction in a conjunction. -/
theorem all_singleton_iff {d : Demand} {b : Bool} :
    Verdict registry (.all [d]) b ↔ Verdict registry d b := by
  refine ⟨fun h => ?_, fun h => ?_⟩
  · cases h with
    | all_pass hp => exact hp d List.mem_cons_self
    | all_fail hd hf => rw [List.mem_singleton.mp hd] at hf; exact hf
  · cases b with
    | true => exact h.all_cons all_nil
    | false => exact all_fail List.mem_cons_self h

end Verdict

theorem entails_nil : Entails registry [] [] := fun _ h => h

theorem Entails.append {ds ds' es es' : List Demand} (h : Entails registry ds es)
    (h' : Entails registry ds' es') : Entails registry (ds ++ ds') (es ++ es') := by
  intro b hb
  rw [Verdict.all_append_iff] at hb ⊢
  cases b with
  | true => exact ⟨h true hb.1, h' true hb.2⟩
  | false => exact hb.imp (h false) (h' false)

/-- Demands as one. -/
theorem entails_group (ds : List Demand) : Entails registry ds [.all ds] :=
  fun _ => Verdict.all_singleton_iff.mpr

/-- The order of demands, and how often each is made, does not matter. -/
theorem entails_of_mem {ds ds' : List Demand} (h : ∀ d, d ∈ ds ↔ d ∈ ds') :
    Entails registry ds ds' := by
  intro b hb
  cases hb with
  | all_pass hp => exact .all_pass fun d hd => hp d ((h d).mpr hd)
  | all_fail hd hf => exact .all_fail ((h _).mp hd) hf

theorem Entails.trans {ds es fs : List Demand} (h : Entails registry ds es)
    (h' : Entails registry es fs) : Entails registry ds fs := fun b hb => h' b (h b hb)

theorem covers_append {l l' : List (Task Nat)} {ds ds' : List Demand}
    (h : Covers registry l ds) (h' : Covers registry l' ds') :
    Covers registry (l ++ l') (ds ++ ds') := by
  show Entails registry ((l ++ l').map Task.demand) (ds ++ ds')
  rw [List.map_append]
  exact h.append h'

theorem covers_flatMap {α : Type} {tasks : α → List (Task Nat)} {ds : α → List Demand}
    (h : ∀ a, Covers registry (tasks a) (ds a)) (l : List α) :
    Covers registry (l.flatMap tasks) (l.flatMap ds) := by
  induction l with
  | nil => exact entails_nil
  | cons a rest ih => exact covers_append (h a) ih

/-- Branches evaluated for real ask for all of them. -/
theorem covers_descend (bs : List (Branch Nat)) :
    Covers registry (bs.map .descend) (bs.map Branch.demand) := by
  show Entails registry ((bs.map .descend).map Task.demand) (bs.map Branch.demand)
  rw [List.map_map]
  exact fun _ h => h

/-- The check of a keyword that may be absent. -/
theorem covers_check {α : Type} (o : Option α) (violated : α → Bool) (tokens : List String)
    (demand : α → Demand) (h : ∀ a, demand a = .holds (!violated a)) :
    Covers registry [.check (o.any violated) tokens] (demandOf o demand) := by
  intro b hb
  have hb := Verdict.all_singleton_iff.mp hb
  -- an absent keyword is never violated, and it demands nothing
  cases o with
  | none => cases hb; exact .all_nil
  | some a =>
      refine Verdict.all_singleton_iff.mpr ?_
      rw [h a]; exact hb

theorem holds_le (a b : Int) : Demand.holds (decide (a ≤ b)) = .holds (!decide (b < a)) := by
  rw [← decide_not]; simp only [Int.not_lt]

theorem holds_lt (a b : Int) : Demand.holds (decide (a < b)) = .holds (!decide (b ≤ a)) := by
  rw [← decide_not]; simp only [Int.not_le]

theorem holds_le_nat (a b : Nat) : Demand.holds (decide (a ≤ b)) = .holds (!decide (b < a)) := by
  rw [← decide_not]; simp only [Nat.not_lt]

theorem number_covers (rules : NumberRules) (n : Number) :
    Covers registry (rules.tasks n) (rules.demands n) :=
  covers_append (covers_append (covers_append (covers_append
    (covers_check _ _ _ _ fun _ => rfl)
    (covers_check _ _ _ _ fun _ => holds_le _ _))
    (covers_check _ _ _ _ fun _ => holds_le _ _))
    (covers_check _ _ _ _ fun _ => holds_lt _ _))
    (covers_check _ _ _ _ fun _ => holds_lt _ _)

theorem string_covers (rules : StringRules) (s : String) :
    Covers registry (rules.tasks s) (rules.demands s) :=
  covers_append (covers_append
    (covers_check _ _ _ _ fun _ => holds_le_nat _ _)
    (covers_check _ _ _ _ fun _ => holds_le_nat _ _))
    (covers_check _ _ _ _ fun _ => by rw [Bool.not_not])

theorem trial_covers (k : Combinators) (v : Value) :
    Covers registry (k.negatedTasks v ++ k.conditionalTasks v) (k.trialDemands v) := by
  refine covers_append ?_ ?_
  · unfold Combinators.negatedTasks
    cases k.negated with
    | none => exact entails_nil
    | some i => exact fun _ h => h
  · unfold Combinators.conditionalTasks
    cases k.condition with
    | none => exact entails_nil
    | some i =>
        have hbranch : ∀ (o : Option Nat) (token : String),
            demandOf (o.map fun j => (⟨[token], none, j, v⟩ : Branch Nat)) Branch.demand =
              demandOf o (.schema · v) := by
          intro o token
          cases o <;> rfl
        intro b hb
        have hb := Verdict.all_singleton_iff.mp hb
        simp only [Task.demand, hbranch] at hb
        exact Verdict.all_singleton_iff.mpr hb

/-- Where something stands in a list does not matter to what is asked of it. -/
theorem map_map_fst {α γ : Type} {f : γ → Demand} {g : α × Nat → γ} (demand : α → Demand)
    (h : ∀ p, f (g p) = demand p.1) (l : List (α × Nat)) :
    (l.map g).map f = (l.map Prod.fst).map demand := by
  rw [List.map_map, List.map_map]
  exact List.map_congr_left fun p _ => h p

theorem map_map_zipIdx {α γ : Type} {f : γ → Demand} {g : α × Nat → γ} (demand : α → Demand)
    (h : ∀ p, f (g p) = demand p.1) (l : List α) :
    (l.zipIdx.map g).map f = l.map demand := by
  rw [map_map_fst demand h, List.zipIdx_map_fst]

theorem map_demand_listBranches (keyword : String) (schemas : List Nat) (v : Value) :
    (Combinators.listBranches keyword schemas v).map Branch.demand =
      schemas.map (.schema · v) :=
  map_map_zipIdx (fun j => .schema j v) (fun _ => rfl) schemas

theorem list_covers (k : Combinators) (v : Value) :
    Covers registry (k.listTasks v) (k.listDemands v) := by
  refine covers_append (covers_append ?_ ?_) ?_
  · cases k.allOf with
    | none => exact entails_nil
    | some schemas =>
        refine (covers_descend _).trans ?_
        rw [map_demand_listBranches]
        exact entails_group _
  · cases k.anyOf with
    | none => exact entails_nil
    | some schemas =>
        show Entails registry [.some ((Combinators.listBranches _ _ _).map _)] _
        rw [map_demand_listBranches]
        exact fun _ h => h
  · cases k.oneOf with
    | none => exact entails_nil
    | some schemas =>
        show Entails registry [.one ((Combinators.listBranches _ _ _).map _)] _
        rw [map_demand_listBranches]
        exact fun _ h => h

theorem element_covers (rules : ArrayRules) (items : List Value) :
    Covers registry ((rules.elementBranches items).map .descend) (rules.elementDemands items) := by
  refine (covers_descend _).trans ?_
  unfold ArrayRules.elementBranches ArrayRules.elementDemands
  cases rules.items with
  | none => exact entails_nil
  | some form =>
      cases form with
      | all j =>
          show Entails registry ((items.zipIdx.map _).map _) _
          rw [map_map_zipIdx (f := Branch.demand) (fun v => .schema j v) (fun _ => rfl)]
          exact entails_group _
      | positional schemas =>
          show Entails registry ((((schemas.zip items).zipIdx.map _) ++ _).map _) ([_] ++ _)
          rw [List.map_append,
            map_map_zipIdx (f := Branch.demand) (fun p : Nat × Value => .schema p.1 p.2)
              (fun _ => rfl)]
          refine (entails_group _).append ?_
          cases rules.additionalItems with
          | none =>
              have hnil : ∀ l : List (Value × Nat),
                  (l.flatMap fun _ => ([] : List (Branch Nat))) = [] :=
                fun l => List.flatMap_eq_nil_iff.mpr fun _ _ => rfl
              simp only [Option.toList, List.map_nil]
              rw [hnil]
              exact entails_nil
          | some j =>
              simp only [Option.toList, List.map_cons, List.map_nil, ← List.map_eq_flatMap]
              rw [map_map_fst (f := Branch.demand) (fun v => .schema j v) (fun _ => rfl),
                List.map_drop,
                List.zipIdx_map_fst]
              exact entails_group _

theorem array_covers (rules : ArrayRules) (items : List Value) :
    Covers registry (rules.tasks items) (rules.demands items) := by
  unfold ArrayRules.tasks ArrayRules.demands
  refine covers_append ?_ ?_
  · simp only [List.append_assoc]
    refine covers_append (element_covers rules items) ?_
    refine covers_append (l := [_]) (covers_check _ _ _ _ fun _ => holds_le_nat _ _) ?_
    refine covers_append (l := [_]) (covers_check _ _ _ _ fun _ => holds_le_nat _ _) ?_
    intro b hb
    have hb := Verdict.all_singleton_iff.mp hb
    cases hu : rules.uniqueItems with
    | false => simp only [Task.demand, hu] at hb; cases hb; exact .all_nil
    | true => simp only [Task.demand, hu] at hb; exact Verdict.all_singleton_iff.mpr hb
  · cases rules.contains with
    | none => exact entails_nil
    | some j =>
        show Entails registry [.some ((items.zipIdx.map _).map _)] _
        rw [map_map_zipIdx (f := Branch.demand) (fun v => .schema j v) (fun _ => rfl)]
        exact fun _ h => h

theorem require_covers (members : Members Value) (tokens names : List String) :
    Covers registry (requireTasks members tokens names) [ObjectRules.hasAll members names] := by
  have h : (requireTasks (ι := Nat) members tokens names).map Task.demand =
      names.map fun name => .holds (members.has name) := by
    unfold requireTasks
    exact map_map_zipIdx (f := Task.demand)
      (g := fun p : String × Nat => .check (!members.has p.1) (tokens ++ [toString p.2]))
      (fun name => .holds (members.has name))
      (fun p => congrArg Demand.holds (Bool.not_not (members.has p.1))) names
  -- one check for each name on the left, and one demand for all of them on the right
  intro b hb
  rw [h] at hb
  refine Verdict.all_singleton_iff.mpr ?_
  cases hb with
  | all_pass hp =>
      have hall : names.all members.has = true := by
        rw [List.all_eq_true]
        intro name hname
        have hv := hp _ (List.mem_map_of_mem hname)
        generalize hh : members.has name = has at hv
        cases hv; rfl
      rw [ObjectRules.hasAll, hall]; exact .holds true
  | all_fail hd hf =>
      obtain ⟨name, hname, rfl⟩ := List.mem_map.mp hd
      have hall : names.all members.has = false := by
        rw [List.all_eq_false]
        refine ⟨name, hname, ?_⟩
        generalize hh : members.has name = has at hf
        cases hf; simp
      rw [ObjectRules.hasAll, hall]; exact .holds false

theorem dependency_covers (members : Members Value) (name : String) (d : Dependency) :
    Covers registry (ObjectRules.dependencyTasks members name d)
      (if members.has name then [ObjectRules.dependencyDemand members d] else []) := by
  unfold ObjectRules.dependencyTasks
  by_cases hn : members.has name = true
  · rw [if_pos hn, if_pos hn]
    cases d with
    | schema j => exact fun _ h => h
    | required names => exact require_covers members _ names
  · rw [if_neg hn, if_neg hn]
    exact entails_nil

/-- What is asked of a member. -/
theorem demand_memberBranches (rules : ObjectRules) (name : String) (v : Value) :
    (rules.memberBranches name v).map Branch.demand =
      demandOf (rules.own? name) (.schema · v) ++
        ((rules.matching name).map fun (_, j) => .schema j v) ++
        (if rules.isAdditional name then demandOf rules.additionalProperties (.schema · v)
        else []) := by
  unfold ObjectRules.memberBranches demandOf
  rw [List.map_append, List.map_append, List.map_map, List.map_map]
  split
  · rw [List.map_map]; rfl
  · rfl

/-- The members are evaluated one by one, and the demands are sorted by keyword. -/
theorem member_covers (rules : ObjectRules) (members : Members Value) :
    Covers registry (members.flatMap fun (name, v) => (rules.memberBranches name v).map .descend)
      (rules.memberDemands members) := by
  have hflat : (members.flatMap fun (name, v) => (rules.memberBranches name v).map Task.descend) =
      (members.flatMap fun (name, v) => rules.memberBranches name v).map Task.descend := by
    rw [List.map_flatMap]
  rw [hflat]
  refine (covers_descend _).trans ?_
  -- sorted by member on the left, and by keyword on the right
  have hgroups : ∀ d,
      d ∈ (members.flatMap fun (name, v) => rules.memberBranches name v).map Branch.demand ↔
        d ∈ (members.flatMap fun (name, v) => demandOf (rules.own? name) (.schema · v)) ++
          ((members.flatMap fun (name, v) => (rules.matching name).map fun (_, j) => .schema j v) ++
          rules.additionalProperties.toList.flatMap fun j =>
            (members.filter fun (name, _) => rules.isAdditional name).map fun (_, v) =>
              .schema j v) := by
    intro d
    simp only [List.map_flatMap, demand_memberBranches, List.mem_append, List.mem_flatMap]
    constructor
    · rintro ⟨p, hp, (hd | hd) | hd⟩
      · exact Or.inl ⟨p, hp, hd⟩
      · exact Or.inr (Or.inl ⟨p, hp, hd⟩)
      · right; right
        split at hd
        · rename_i ha
          obtain ⟨j, hj, rfl⟩ := List.mem_map.mp hd
          exact ⟨j, hj, List.mem_map.mpr ⟨p, List.mem_filter.mpr ⟨hp, ha⟩, rfl⟩⟩
        · exact absurd hd List.not_mem_nil
    · rintro (⟨p, hp, hd⟩ | ⟨p, hp, hd⟩ | ⟨j, hj, hd⟩)
      · exact ⟨p, hp, Or.inl (Or.inl hd)⟩
      · exact ⟨p, hp, Or.inl (Or.inr hd)⟩
      · obtain ⟨p, hp, rfl⟩ := List.mem_map.mp hd
        obtain ⟨hp, ha⟩ := List.mem_filter.mp hp
        refine ⟨p, hp, Or.inr ?_⟩
        rw [if_pos ha]
        exact List.mem_map.mpr ⟨j, hj, rfl⟩
  refine (entails_of_mem hgroups).trans ?_
  show Entails registry _ ([_] ++ ([_] ++ _))
  refine (entails_group _).append ((entails_group _).append ?_)
  cases rules.additionalProperties with
  | none => exact entails_nil
  | some j =>
      simp only [Option.toList, List.flatMap_singleton]
      exact entails_group _

theorem object_covers (rules : ObjectRules) (members : Members Value) :
    Covers registry (rules.tasks members) (rules.demands members) := by
  unfold ObjectRules.tasks ObjectRules.demands
  refine covers_append (covers_append (covers_append (covers_append ?_ ?_)
    (member_covers rules members)) ?_) ?_
  · exact covers_append (l := [_]) (covers_check _ _ _ _ fun _ => holds_le_nat _ _)
      (covers_check _ _ _ _ fun _ => holds_le_nat _ _)
  · cases rules.required with
    | none => exact entails_nil
    | some names => exact require_covers members _ names
  · cases rules.dependencies with
    | none => exact entails_nil
    | some dependencies =>
        have h := @covers_flatMap registry (String × Dependency) _ _
          (fun p => dependency_covers members p.1 p.2) dependencies
        -- a name that the object has not leaves nothing on the left, and is left out on the right
        refine h.trans ((entails_of_mem fun d => ?_).trans (entails_group _))
        simp only [List.mem_flatMap, List.mem_map, List.mem_filter]
        constructor
        · rintro ⟨p, hp, hd⟩
          split at hd
          · rename_i hn
            exact ⟨p, ⟨hp, hn⟩, (List.mem_singleton.mp hd).symm⟩
          · exact absurd hd List.not_mem_nil
        · rintro ⟨p, ⟨hp, hn⟩, rfl⟩
          exact ⟨p, hp, by rw [if_pos hn]; exact List.mem_singleton.mpr rfl⟩
  · cases rules.propertyNames with
    | none => exact entails_nil
    | some j =>
        refine Entails.trans ?_ (entails_group _)
        show Entails registry ((members.map _).map _) (members.map _)
        rw [List.map_map]
        exact fun _ h => h

theorem shaped_covers (k : Keywords) (v : Value) :
    Covers registry (k.shapedTasks v) (k.shapedDemands v) := by
  cases v with
  | null => exact entails_nil
  | bool b => exact entails_nil
  | number n => exact number_covers k.numbers n
  | string s => exact string_covers k.strings s
  | array items => exact array_covers k.arrays items
  | object members => exact object_covers k.objects members

/-- The tasks of a node ask what its keywords demand. -/
theorem keywords_covers (k : Keywords) (v : Value) :
    Covers registry (k.tasks v) (k.demands v) := by
  unfold Keywords.tasks Keywords.ownTasks Keywords.demands
  simp only [List.append_assoc]
  refine covers_append ?_ ?_
  · unfold Keywords.refTasks
    cases k.ref with
    | none => exact entails_nil
    | some ref => exact fun _ h => h
  · -- `not` and `if` go together, and then each keyword has its own part
    rw [← List.append_assoc (k.combinators.negatedTasks v)]
    refine covers_append (trial_covers k.combinators v) ?_
    refine covers_append (l := [_]) (covers_check _ _ _ _ fun _ => by rw [Bool.not_not]) ?_
    refine covers_append (l := [_]) (covers_check _ _ _ _ fun _ => by rw [Bool.not_not]) ?_
    refine covers_append (list_covers k.combinators v) ?_
    refine covers_append (covers_check _ _ _ _ fun _ => by rw [Bool.not_not]) ?_
    exact shaped_covers k v

/-! ## Nodes and calls -/

namespace Eval

/-- Every answer tells the verdict. -/
def Answers.Decides (registry : Registry) (answers : Answers) : Prop :=
  ∀ s i v, JsonSchema.Decides registry (answers s i v) (.schema i v)

theorem site_decides {answers : Answers} (h : answers.Decides registry) (limit : Nat)
    (s : EvalStack) : Site.Decides registry (site limit answers s) where
  evaluate b := h _ b.schema b.value
  follow target schema v := by
    intro out out' hfull hok
    cases schema with
    | none => cases hok
    | some index =>
        simp only [site] at hok
        split at hok
        · cases hok
        · rcases h _ index v out out' hfull hok with ⟨rfl, hv⟩ | ⟨hlt, hv⟩
          · exact Or.inl ⟨rfl, .linked hv⟩
          · exact Or.inr ⟨hlt, .linked hv⟩

theorem nodeAnswer_decides {answers : Answers} (h : answers.Decides registry)
    (hg : answers.Gathers) (limit : Nat) :
    (nodeAnswer registry limit answers).Decides registry := by
  intro s i v out out' hfull hok
  unfold nodeAnswer at hok
  rw [if_neg hfull] at hok
  cases hn : registry.get? i with
  | none => rw [hn] at hok; exact nomatch hok
  | some node =>
      rw [hn] at hok
      cases hb : node.body with
      | bool b =>
          cases b with
          | true =>
              simp only [hb] at hok
              cases hok; exact Or.inl ⟨rfl, .bool hn hb⟩
          | false =>
              simp only [hb] at hok
              cases hok
              refine Or.inr ⟨?_, .bool hn hb⟩
              rw [Violations.add, if_neg hfull]
              simp
      | keywords k =>
          simp only [hb] at hok
          -- the tasks tell the verdict on what they ask, which is what the keywords demand
          rcases (site_decides h limit s).performAll (site_gathers hg limit s) (k.tasks v) out out'
            hfull hok with ⟨rfl, hv⟩ | ⟨hlt, hv⟩
          · exact Or.inl ⟨rfl, .keywords hn hb (keywords_covers k v true hv)⟩
          · exact Or.inr ⟨hlt, .keywords hn hb (keywords_covers k v false hv)⟩

/-- However deep the evaluation goes, its answer tells the verdict. -/
theorem answerWithin_decides (registry : Registry) (limit steps : Nat) :
    (answerWithin registry limit steps).Decides registry := by
  induction steps with
  | zero =>
      -- where the bound is used up, what is below a node has no answer
      refine nodeAnswer_decides ?_ ?_ limit
      · intro s i v out out' _ hok; exact nomatch hok
      · intro s i v out out' hok; exact nomatch hok
  | succ steps ih =>
      exact nodeAnswer_decides ih (answerWithin_gathers registry limit steps) limit

end Eval

/-- The answer of a call is valid when the verdict is positive, and only then. -/
theorem evaluate_verdict {limit cap i : Nat} {frame : Frame} {v : Value} {es : List Violation}
    (h : registry.evaluate limit cap frame i v = .ok es) :
    Verdict registry (.schema i v) (Report.isValid es) := by
  obtain ⟨out, hout, rfl⟩ := evaluate_eq_ok.mp h
  have hfull : ¬ (Violations.none cap).isFull = true := by
    rw [Violations.not_isFull_iff]
    exact (Nat.eq_zero_or_pos cap).imp id id
  rcases Eval.answerWithin_decides registry limit _ _ i v _ out hfull hout with
    ⟨rfl, hv⟩ | ⟨hlt, hv⟩
  · exact hv
  · have hne : Report.isValid out.found = false :=
      List.isEmpty_eq_false_iff.mpr (List.ne_nil_of_length_pos (Nat.zero_lt_of_lt hlt))
    rw [hne]; exact hv

/-- An answer that is an empty report goes with the positive verdict, and any other one with the
negative. -/
def Tells (registry : Registry) (i : Nat) (v : Value) (es : Report) : Prop :=
  (es = [] ↔ Verdict registry (.schema i v) true) ∧
    (es ≠ [] ↔ Verdict registry (.schema i v) false)

theorem tells_of_evaluate {limit cap i : Nat} {frame : Frame} {v : Value} {es : List Violation}
    (h : registry.evaluate limit cap frame i v = .ok es) : Tells registry i v es := by
  have hv := evaluate_verdict h
  cases es with
  | nil =>
      refine ⟨⟨fun _ => hv, fun _ => rfl⟩, fun hne => absurd rfl hne, fun hf => ?_⟩
      exact nomatch hv.unique hf
  | cons e rest =>
      refine ⟨⟨fun hnil => (nomatch hnil), fun hp => ?_⟩, fun _ => hv, fun _ hnil => (nomatch hnil)⟩
      exact nomatch hv.unique hp

/-- **An answer is the verdict.** Whatever the compiled documents, the limits and the place where
evaluation starts, a report is empty when the schema has the positive verdict on the instance, and
not empty when it has the negative one, and there are never both. This holds of a call on any node,
and so of validation with the last document and with a selector; and a trial is passed or not as the
verdict says. -/
theorem report_tells_verdict (validator : Validator) (v : Value) :
    (∀ limit cap frame i es,
      validator.bundle.registry.evaluate limit cap frame i v = .ok es →
        Tells validator.bundle.registry i v es) ∧
    (∀ es, validator.validate v = .ok es →
      ∃ root, validator.bundle.roots.getLast? = some root ∧
        Tells validator.bundle.registry root.index v es) ∧
    (∀ selector es, validator.validateAt selector v = .ok es →
      ∃ target i, Target.ofSelector selector = .ok target ∧
        validator.bundle.registry.lookup target.key = some i ∧
        Tells validator.bundle.registry i v es) ∧
    (∀ limit steps s tokens token i passed,
      ((Eval.passes (Eval.within validator.bundle.registry limit steps) tokens token i v).run
        s).1 = .ok passed → Verdict validator.bundle.registry (.schema i v) passed) ∧
    ∀ i b c, Verdict validator.bundle.registry (.schema i v) b →
      Verdict validator.bundle.registry (.schema i v) c → b = c := by
  refine ⟨fun _ _ _ _ _ h => tells_of_evaluate h, fun es h => ?_, fun selector es h => ?_,
    fun limit steps s tokens token i passed h => ?_, fun _ _ _ h h' => h.unique h'⟩
  · unfold Validator.validate at h
    cases hr : validator.bundle.roots.getLast? with
    | none => rw [hr] at h; exact nomatch h
    | some root => rw [hr] at h; exact ⟨root, rfl, tells_of_evaluate h⟩
  · unfold Validator.validateAt at h
    cases ht : Target.ofSelector selector with
    | error cause => rw [ht] at h; exact nomatch h
    | ok target =>
        rw [ht] at h
        simp only at h
        cases hi : validator.bundle.registry.lookup target.key with
        | none => rw [hi] at h; exact nomatch h
        | some i => rw [hi] at h; exact ⟨target, i, rfl, hi, tells_of_evaluate h⟩
  · have hpassed := (Eval.passes_run _ limit steps s ⟨tokens, token, i, v⟩).symm.trans h
    exact (Eval.site_decides (Eval.answerWithin_decides _ limit steps) limit s).passes hpassed

/-- A schema that accepts what the schema of its `not`, which accepts nothing, does not. -/
def notNothing : Validator where
  bundle := {
    registry := {
      nodes := #[{ uri := "#/not", body := .bool false },
        { uri := "", body := .keywords { combinators := { negated := some 0 } } }]
      byUri := [("#/not", 0), ("", 1)] }
    roots := [{ base := .anonymous, index := 1 }] }
  config := {}

theorem report_tells_verdict_notNothing :
    notNothing.validate .null = .ok [] ∧
      Verdict notNothing.bundle.registry (.schema 1 .null) true := by
  refine ⟨rfl, ?_⟩
  obtain ⟨root, hroot, htells⟩ := (report_tells_verdict notNothing .null).2.1 [] rfl
  cases hroot
  exact htells.1.mp rfl

end JsonSchema
