import JsonSchema.Command.Run
import JsonSchema.Proofs.Basic

/-!
# Several instances in one run

A run validates its instances one by one, and the first failure ends it without a result. So two
lists of instances are validated together as they are one after the other: the reports are appended,
there is none if there would be none for either list, and what is said about an instance does not
depend on the others.

The arguments may be written in many ways, so the theorem is about what they ask for: the same
schemas and options, with different instances.
-/

namespace JsonSchema.Command

variable {files : Files} {task : Validation}

namespace Validation

/-- The task with other instances. -/
def on (task : Validation) (instances : List String) : Validation := { task with instances }

/-- The validator that a task asks for, which does not depend on the instances. -/
def built (files : Files) (task : Validation) : Except Failure Validator := do
  let config ← limits files task.config task.maxStackDepth task.maxErrors
  validator files task.schemas config

theorem reports_on (xs : List String) : (task.on xs).reports files =
    task.built files >>= fun validator => xs.mapM (reportOn files validator task.selector) := by
  unfold reports built
  rw [bind_assoc]
  rfl

/-- **The reports on two lists of instances** are those on the one and those on the other. -/
theorem reports_append (xs ys : List String) : (task.on (xs ++ ys)).reports files = (do
    let before ← (task.on xs).reports files
    let behind ← (task.on ys).reports files
    return before ++ behind) := by
  rw [reports_on, reports_on, reports_on]
  cases task.built files with
  | error cause => rfl
  | ok validator => exact List.mapM_append

/-- What is reported on an instance is what is reported on it alone, with the validator that is
built for all of them. -/
theorem reports_alone {xs : List String} {rs : List InstanceReport}
    (h : (task.on xs).reports files = .ok rs) :
    List.Forall₂ (fun x r => (task.on [x]).reports files = .ok [r] ∧
      ∃ validator, task.built files = .ok validator ∧
        reportOn files validator task.selector x = .ok r) xs rs := by
  rw [reports_on] at h
  obtain ⟨validator, hbuilt, heach⟩ := bind_eq_ok h
  refine (mapM_eq_ok.mp heach).imp fun x r hr => ⟨?_, validator, hbuilt, hr⟩
  rw [reports_on, hbuilt]
  exact mapM_eq_ok.mpr (.cons hr .nil)

end Validation

/-! ## Outcomes -/

/-- The exit code that some reports give. -/
def exitCodeOf (reports : List InstanceReport) : Nat :=
  if reports.all InstanceReport.isValid then 0 else 1

theorem exitCodeOf_le (reports : List InstanceReport) : exitCodeOf reports ≤ 1 := by
  unfold exitCodeOf
  split <;> decide

theorem exitCodeOf_eq_zero {reports : List InstanceReport} :
    exitCodeOf reports = 0 ↔ ∀ r ∈ reports, r.report = [] := by
  have hvalid : reports.all InstanceReport.isValid = true ↔ ∀ r ∈ reports, r.report = [] := by
    rw [List.all_eq_true]
    exact forall₂_congr fun r _ => List.isEmpty_iff
  rw [← hvalid]
  unfold exitCodeOf
  split
  · rename_i h
    exact iff_of_true rfl h
  · rename_i h
    exact iff_of_false Nat.one_ne_zero h

theorem exitCodeOf_eq_one {reports : List InstanceReport} :
    exitCodeOf reports = 1 ↔ ∃ r ∈ reports, r.report ≠ [] := by
  have hle := exitCodeOf_le reports
  have hone : exitCodeOf reports = 1 ↔ ¬ exitCodeOf reports = 0 := by omega
  rw [hone, exitCodeOf_eq_zero]
  simp only [not_forall, exists_prop]

theorem exitCodeOf_append (before behind : List InstanceReport) :
    exitCodeOf (before ++ behind) = max (exitCodeOf before) (exitCodeOf behind) := by
  unfold exitCodeOf
  rw [List.all_append]
  cases before.all InstanceReport.isValid <;> cases behind.all InstanceReport.isValid <;> rfl

theorem reportsText_append (format : Format) (before behind : List InstanceReport) :
    reportsText format (before ++ behind) =
      reportsText format before ++ reportsText format behind := by
  unfold reportsText
  rw [List.map_append, String.join_append]

/-- How a run ends with some reports, or without a result. -/
def ending (format : Format) : Except Failure (List InstanceReport) → Outcome
  | .ok reports => { exitCode := exitCodeOf reports, output := reportsText format reports }
  | .error _ => { exitCode := 2, output := "" }

theorem outcome_of_validate {args : List String}
    (h : Request.ofArguments? args = some (.validate task)) :
    outcome files args = ending task.format (task.reports files) := by
  have hrun : (Request.validate task).run files = (task.reports files).map fun reports =>
      { exitCode := exitCodeOf reports, output := reportsText task.format reports } := by
    show (task.reports files >>= _) = _
    cases task.reports files <;> rfl
  unfold outcome run
  rw [h]
  dsimp only
  rw [hrun]
  cases task.reports files <;> rfl

theorem exitCode_ending {format : Format} {m : Except Failure (List InstanceReport)} :
    (ending format m).exitCode = 2 ↔ ∃ cause, m = .error cause := by
  cases m with
  | error cause => exact iff_of_true rfl ⟨cause, rfl⟩
  | ok reports =>
      have hle := exitCodeOf_le reports
      refine iff_of_false ?_ fun ⟨_, h⟩ => nomatch h
      show exitCodeOf reports ≠ 2
      omega

/-- What is printed is what would be printed for each instance alone. -/
theorem reportsText_eq_join {xs : List String} {rs : List InstanceReport}
    (h : (task.on xs).reports files = .ok rs) {printed : String → String}
    (hprinted : ∀ x ∈ xs,
      printed x = (ending task.format ((task.on [x]).reports files)).output) :
    reportsText task.format rs = String.join (xs.map printed) := by
  have halone := Validation.reports_alone h
  clear h
  induction halone with
  | nil => rfl
  | @cons x r xs rs hx _ ih =>
      have hr : printed x = r.text task.format := by
        rw [hprinted x List.mem_cons_self, hx.1]
        show String.join [r.text task.format] = _
        rw [String.join_cons, String.join_nil, String.append_empty]
      rw [List.map_cons, String.join_cons, hr,
        ← ih fun y hy => hprinted y (List.mem_cons_of_mem _ hy)]
      exact String.join_cons

/-- **Instances are validated independently, and a failure leaves no output.** The arguments ask for
the same schemas with the same options, and for the instances `xs` and `ys` together, for those of
one list only, or for a single one of them. -/
theorem batch_outcome (files : Files) (task : Validation) (xs ys : List String)
    (both left right : List String) (alone : String → List String)
    (hboth : Request.ofArguments? both = some (.validate (task.on (xs ++ ys))))
    (hleft : Request.ofArguments? left = some (.validate (task.on xs)))
    (hright : Request.ofArguments? right = some (.validate (task.on ys)))
    (halone : ∀ x ∈ xs ++ ys,
      Request.ofArguments? (alone x) = some (.validate (task.on [x]))) :
    ((outcome files both).exitCode = 2 ↔
      (outcome files left).exitCode = 2 ∨ (outcome files right).exitCode = 2) ∧
    ((outcome files both).exitCode = 2 → (outcome files both).output = "") ∧
    ((outcome files both).exitCode ≠ 2 →
      (outcome files both).output =
        (outcome files left).output ++ (outcome files right).output ∧
      (outcome files both).exitCode =
        max (outcome files left).exitCode (outcome files right).exitCode ∧
      (outcome files both).output =
        String.join ((xs ++ ys).map fun x => (outcome files (alone x)).output) ∧
      ∃ validator reports, task.built files = .ok validator ∧
        List.Forall₂ (fun x r => Validation.reportOn files validator task.selector x = .ok r)
          (xs ++ ys) reports ∧
        ((outcome files both).exitCode = 1 ↔ ∃ r ∈ reports, r.report ≠ []) ∧
        ((outcome files both).exitCode = 0 ↔ ∀ r ∈ reports, r.report = [])) := by
  rw [outcome_of_validate hboth, outcome_of_validate hleft, outcome_of_validate hright]
  have hprinted : ∀ x ∈ xs ++ ys, (outcome files (alone x)).output =
      (ending task.format ((task.on [x]).reports files)).output := fun x hx =>
    congrArg Outcome.output (outcome_of_validate (halone x hx))
  have happend := @Validation.reports_append files task xs ys
  refine ⟨?_, fun htwo => ?_, fun hresult => ?_⟩
  · simp only [exitCode_ending]
    rw [happend]
    cases (task.on xs).reports files with
    | error cause => exact iff_of_true ⟨cause, rfl⟩ (.inl ⟨cause, rfl⟩)
    | ok before =>
        cases (task.on ys).reports files with
        | error cause => exact iff_of_true ⟨cause, rfl⟩ (.inr ⟨cause, rfl⟩)
        | ok behind =>
            refine iff_of_false (fun ⟨_, h⟩ => nomatch h) ?_
            rintro (⟨_, h⟩ | ⟨_, h⟩) <;> exact nomatch h
  · obtain ⟨cause, hcause⟩ := exitCode_ending.mp htwo
    rw [hcause]
    rfl
  · cases hreports : (task.on (xs ++ ys)).reports files with
    | error cause => rw [hreports] at hresult; exact absurd rfl hresult
    | ok reports =>
        -- there are reports for both lists, and for each instance
        rw [hreports] at happend
        obtain ⟨before, hbefore, happend⟩ := bind_eq_ok happend.symm
        obtain ⟨behind, hbehind, happend⟩ := bind_eq_ok happend
        cases happend
        have heach := Validation.reports_alone hreports
        obtain ⟨validator, hbuilt, _⟩ := bind_eq_ok (Validation.reports_on _ ▸ hreports)
        rw [hbefore, hbehind]
        refine ⟨reportsText_append task.format before behind, exitCodeOf_append before behind,
          reportsText_eq_join hreports hprinted, validator, before ++ behind, hbuilt, ?_,
          exitCodeOf_eq_one, exitCodeOf_eq_zero⟩
        refine heach.imp fun x r ⟨_, own, hown, hr⟩ => ?_
        rw [hbuilt] at hown
        cases hown
        exact hr

/-- A schema, an instance that is valid and one that is not. -/
def threeFiles : Files :=
  [("s.json", "\x7b\"type\":\"string\"\x7d".toUTF8), ("a.json", "\"x\"".toUTF8),
    ("b.json", "1".toUTF8)]

/-- The arguments that ask for the validation of some files. -/
def validating (instances : List String) : List String :=
  ["validate", "--format", "json", "-ss.json"] ++ instances

/-- The task that they ask for, whatever the instances. -/
def typeTask : Validation := { schemas := ["s.json"], format := .json }

/-- With the invalid instance the code is `1`, and with one that cannot be read there is no output,
although the first instance is valid. -/
theorem batch_outcome_three_files :
    (outcome threeFiles (validating ["a.json", "b.json"])).exitCode = 1 ∧
      (outcome threeFiles (validating ["a.json"])).exitCode = 0 ∧
      (outcome threeFiles (validating ["a.json", "b.json"])).output =
        (outcome threeFiles (validating ["a.json"])).output ++
          (outcome threeFiles (validating ["b.json"])).output ∧
      (outcome threeFiles (validating ["a.json", "c.json"])).exitCode = 2 ∧
      (outcome threeFiles (validating ["a.json", "c.json"])).output = "" := by
  obtain ⟨_, _, hresult⟩ := batch_outcome threeFiles typeTask ["a.json"] ["b.json"]
    (validating ["a.json", "b.json"]) (validating ["a.json"]) (validating ["b.json"])
    (fun x => validating [x]) (by decide +kernel) (by decide +kernel) (by decide +kernel)
    (by decide +kernel)
  obtain ⟨hfails, hempty, _⟩ := batch_outcome threeFiles typeTask ["a.json"] ["c.json"]
    (validating ["a.json", "c.json"]) (validating ["a.json"]) (validating ["c.json"])
    (fun x => validating [x]) (by decide +kernel) (by decide +kernel) (by decide +kernel)
    (by decide +kernel)
  have hboth : (outcome threeFiles (validating ["a.json", "b.json"])).exitCode = 1 := by
    decide +kernel
  have hvalid : (outcome threeFiles (validating ["a.json"])).exitCode = 0 := by
    decide +kernel
  have hmissing : (outcome threeFiles (validating ["c.json"])).exitCode = 2 := by
    decide +kernel
  have htwo := hfails.mpr (.inr hmissing)
  exact ⟨hboth, hvalid, (hresult (by rw [hboth]; decide)).1, htwo, hempty htwo⟩

end JsonSchema.Command
