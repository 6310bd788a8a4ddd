import JsonSchema.Proofs.Command.Batch
import JsonSchema.Proofs.Direct.Presentation

/-!
# What is read from files, and what is printed

Where a name is repeated in the text of an object, in JSON or in YAML, the member is set again. So
no name occurs twice in a document that is read from a file, which is all that is asked of accepted
documents for the validator to answer what the direct interpreter answers. Hence a run that ends
with a result prints what the direct interpreter finds, with no word of nodes or links.

It is also all that is asked of documents for their presentation not to matter. So schemas and
instances may be written anew, with their members in another order, and the exit code is the same.
-/

namespace JsonSchema

/-! ## JSON text -/

namespace Json

variable {α : Type}

/-- What a reader reads has a property. -/
def Reader.Gives (P : α → Prop) (reader : Reader α) : Prop :=
  ∀ cs a rest, reader cs = some (a, rest) → P a

variable {item : Reader Value}

theorem readItems_gives (hitem : item.Gives Value.Distinct) (bound : Nat) :
    (readItems item bound).Gives fun items => ∀ v ∈ items, v.Distinct := by
  induction bound with
  | zero => exact fun _ _ _ h => nomatch h
  | succ bound ih =>
      intro cs items rest h
      obtain ⟨⟨v, rest'⟩, hv, h⟩ := Option.bind_eq_some_iff.mp h
      have hfirst := hitem _ _ _ hv
      dsimp only at h
      split at h
      · cases h
        exact fun w hw => List.mem_singleton.mp hw ▸ hfirst
      · obtain ⟨⟨vs, rest''⟩, hvs, h⟩ := Option.bind_eq_some_iff.mp h
        cases h
        intro w hw
        rcases List.mem_cons.mp hw with rfl | hw
        · exact hfirst
        · exact ih _ _ _ hvs w hw
      · exact nomatch h

theorem readMember_gives (hitem : item.Gives Value.Distinct) (bound : Nat) :
    (readMember item bound).Gives fun p => p.2.Distinct := by
  intro cs p rest h
  unfold readMember at h
  split at h
  · obtain ⟨⟨name, rest'⟩, _, h⟩ := Option.bind_eq_some_iff.mp h
    dsimp only at h
    split at h
    · obtain ⟨⟨v, rest''⟩, hv, h⟩ := Option.bind_eq_some_iff.mp h
      cases h
      exact hitem _ _ _ hv
    · exact nomatch h
  · exact nomatch h

theorem readMembers_gives {member : Reader (String × Value)}
    (hmember : member.Gives fun p => p.2.Distinct) (bound : Nat) {done : Members Value}
    (hdone : (Value.object done).Distinct) :
    (readMembers member bound done).Gives fun members => (Value.object members).Distinct := by
  induction bound generalizing done with
  | zero => exact fun _ _ _ h => nomatch h
  | succ bound ih =>
      intro cs members rest h
      obtain ⟨⟨⟨name, v⟩, rest'⟩, hv, h⟩ := Option.bind_eq_some_iff.mp h
      -- the name may be there already, and then its member is replaced
      have hset : (Value.object (done.set name v)).Distinct := hdone.set (hmember _ _ _ hv)
      dsimp only at h
      split at h
      · cases h
        exact hset
      · exact ih hset _ _ _ h
      · exact nomatch h

theorem readWord_gives {word : String} {v w : Value} {cs rest : List Char} (hv : v.Distinct)
    (h : readWord word v cs = some (w, rest)) : w.Distinct := by
  unfold readWord at h
  dsimp only at h
  split at h
  · cases h
    exact hv
  · exact nomatch h

theorem readNode_gives {nested : Option (Reader Value)}
    (hnested : ∀ item ∈ nested, item.Gives Value.Distinct) (bound : Nat) :
    (readNode bound nested).Gives Value.Distinct := by
  intro cs v rest h
  unfold readNode at h
  split at h
  · obtain ⟨item, hitem, h⟩ := Option.bind_eq_some_iff.mp h
    dsimp only at h
    split at h
    · cases h
      exact Value.distinct_array.mpr fun w hw => absurd hw List.not_mem_nil
    · obtain ⟨⟨vs, rest'⟩, hvs, h⟩ := Option.bind_eq_some_iff.mp h
      cases h
      exact Value.distinct_array.mpr (readItems_gives (hnested _ hitem) bound _ _ _ hvs)
  · obtain ⟨item, hitem, h⟩ := Option.bind_eq_some_iff.mp h
    dsimp only at h
    split at h
    · cases h
      exact Value.distinct_empty
    · obtain ⟨⟨members, rest'⟩, hm, h⟩ := Option.bind_eq_some_iff.mp h
      cases h
      exact readMembers_gives (readMember_gives (hnested _ hitem) bound) bound
        Value.distinct_empty _ _ _ hm
  · obtain ⟨⟨s, rest'⟩, _, h⟩ := Option.bind_eq_some_iff.mp h
    cases h
    trivial
  · exact readWord_gives (v := .null) trivial h
  · exact readWord_gives (v := .bool true) trivial h
  · exact readWord_gives (v := .bool false) trivial h
  · obtain ⟨⟨n, rest'⟩, _, h⟩ := Option.bind_eq_some_iff.mp h
    cases h
    trivial

theorem readValue_gives (bound nesting : Nat) : (readValue bound nesting).Gives Value.Distinct := by
  induction nesting with
  | zero => exact readNode_gives (fun item h => absurd h (Option.not_mem_none item)) bound
  | succ nesting ih =>
      refine readNode_gives (fun item h => ?_) bound
      cases h
      exact ih

end Json

theorem Value.distinct_ofText? {text : String} {v : Value} (h : Value.ofText? text = some v) :
    v.Distinct := by
  obtain ⟨⟨w, rest⟩, hw, h⟩ := Option.bind_eq_some_iff.mp h
  dsimp only at h
  split at h
  · cases h
    exact Json.readValue_gives _ _ _ _ _ hw
  · exact nomatch h

/-! ## YAML text -/

namespace Yaml.YamlValue

mutual

theorem distinct_toJson (y : YamlValue) {v : Value} (h : y.toJson = .ok v) : v.Distinct := by
  match y with
  | .null => cases h; trivial
  | .bool b => cases h; trivial
  | .number (.finite n) => cases h; trivial
  | .string s => cases h; trivial
  | .sequence items =>
      obtain ⟨vs, hvs, h⟩ := bind_eq_ok h
      cases h
      exact Value.distinct_array.mpr (distinct_toJsonItems items hvs)
  | .mapping entries =>
      obtain ⟨members, hm, h⟩ := bind_eq_ok h
      cases h
      exact distinct_toJsonEntries entries Value.distinct_empty hm
  | .tagged _ y => exact distinct_toJson y h

theorem distinct_toJsonItems (items : List YamlValue) {vs : List Value}
    (h : toJsonItems items = .ok vs) : ∀ v ∈ vs, v.Distinct := by
  match items with
  | [] => cases h; exact fun _ hv => absurd hv List.not_mem_nil
  | y :: rest =>
      obtain ⟨v, hv, h⟩ := bind_eq_ok h
      obtain ⟨vs, hvs, h⟩ := bind_eq_ok h
      cases h
      intro w hw
      rcases List.mem_cons.mp hw with rfl | hw
      · exact distinct_toJson y hv
      · exact distinct_toJsonItems rest hvs w hw

theorem distinct_toJsonEntries (entries : List (YamlValue × YamlValue))
    {done members : Members Value} (hdone : (Value.object done).Distinct)
    (h : toJsonEntries done entries = .ok members) :
    (Value.object members).Distinct := by
  match entries with
  | [] => cases h; exact hdone
  | (key, value) :: rest =>
      obtain ⟨name, _, h⟩ := bind_eq_ok h
      obtain ⟨v, hv, h⟩ := bind_eq_ok h
      exact distinct_toJsonEntries rest (hdone.set (distinct_toJson value hv)) h

end

end Yaml.YamlValue

namespace Command

variable {files : Files} {task : Validation}

/-- No name occurs twice in the document in a file. -/
theorem Files.distinct_document {file : String} {v : Value} (h : files.document file = .ok v) :
    v.Distinct := by
  obtain ⟨text, _, h⟩ := bind_eq_ok h
  split at h
  · unfold yamlDocument at h
    split at h
    · exact nomatch h
    · rename_i y _
      split at h
      · rename_i hy
        cases h
        exact y.distinct_toJson hy
      · exact nomatch h
  · split at h
    · rename_i hv
      cases h
      exact Value.distinct_ofText? hv
    · exact nomatch h

/-- What the direct interpreter answers with the last document, or with the schema that a selector
names. -/
def directAnswer (documents : List Value) (config : Config) (selector : Option String) (v : Value) :
    Except EvalError Report :=
  match selector with
  | none => Direct.validate documents config v
  | some selector => Direct.validateAt documents config selector v

theorem directAnswer_perm {documents documents' : List Value}
    (hdocs : Direct.RestatesAll documents documents') {config : Config}
    (hcap : config.maxErrors = 0) {selector : Option String} {v w : Value} (hvw : v.Restates w)
    {es es' : Report} (h : directAnswer documents config selector v = .ok es)
    (h' : directAnswer documents' config selector w = .ok es') : es.Perm es' := by
  cases selector with
  | none => exact Direct.validate_perm hdocs hcap hvw h h'
  | some selector => exact Direct.validateAt_perm hdocs hcap hvw h h'

/-- Both files of this name hold the same document, though perhaps in another presentation. -/
def Files.AlikeAt (files files' : Files) (file : String) : Prop :=
  ∀ v w, files.document file = .ok v → files'.document file = .ok w → v.Alike w

/-- What is read from files of the same names is restated if it is alike. -/
theorem Files.restates {files' : Files} {file : String} (h : files.AlikeAt files' file)
    {v w : Value} (hv : files.document file = .ok v) (hw : files'.document file = .ok w) :
    v.Restates w := ⟨h v w hv hw, distinct_document hv⟩

namespace Validation

/-- A validator is built of the documents in its files. -/
theorem validator_eq_ok {schemas : List String} {config : Config} {built : Validator}
    (h : validator files schemas config = .ok built) :
    ∃ documents, List.Forall₂ (fun file document => files.document file = .ok document) schemas
      documents ∧ Validator.ofDocuments documents config = .ok built := by
  obtain ⟨documents, hdocuments, h⟩ := bind_eq_ok h
  refine ⟨documents, mapM_eq_ok.mp hdocuments, ?_⟩
  split at h
  · rename_i hbuilt
    cases h
    exact hbuilt
  · exact nomatch h

/-- The report on the instance in a file is what the direct interpreter answers. -/
theorem reportOn_eq_ok {documents : List Value} {config : Config} {built : Validator}
    (hd : ∀ document ∈ documents, document.Distinct)
    (hbuilt : Validator.ofDocuments documents config = .ok built) {selector : Option String}
    {file : String} {r : InstanceReport} (h : reportOn files built selector file = .ok r) :
    r.file = file ∧ ∃ v, files.document file = .ok v ∧
      directAnswer documents config selector v = .ok r.report := by
  obtain ⟨v, hv, h⟩ := bind_eq_ok h
  dsimp only at h
  split at h
  · rename_i report hreport
    cases h
    refine ⟨rfl, v, hv, ?_⟩
    cases selector with
    | none => exact (validate_eq_direct hd hbuilt v).symm.trans hreport
    | some selector =>
        have hanswer : built.validateAt selector v = .ok report := hreport
        have hknown : built.validateAt selector v ≠ .error (.unknownSchema selector) := by
          rw [hanswer]
          nofun
        exact (validateAt_eq_direct hd hbuilt hknown).symm.trans hanswer
  · exact nomatch h

/-- If there are reports at all, they are those of the direct interpreter. -/
theorem reports_eq_ok {reports : List InstanceReport} (h : task.reports files = .ok reports) :
    ∃ config documents,
      limits files task.config task.maxStackDepth task.maxErrors = .ok config ∧
      List.Forall₂ (fun file document => files.document file = .ok document) task.schemas
        documents ∧
      List.Forall₂ (fun file r => r.file = file ∧ ∃ v, files.document file = .ok v ∧
        directAnswer documents config task.selector v = .ok r.report) task.instances reports := by
  obtain ⟨config, hconfig, h⟩ := bind_eq_ok h
  obtain ⟨built, hbuilt, h⟩ := bind_eq_ok h
  obtain ⟨documents, hdocuments, haccepted⟩ := validator_eq_ok hbuilt
  have hd : ∀ document ∈ documents, document.Distinct := by
    intro document hmem
    obtain ⟨file, hfile⟩ := exists_of_mem_right hdocuments hmem
    exact Files.distinct_document hfile
  exact ⟨config, documents, hconfig, hdocuments,
    (mapM_eq_ok.mp h).imp fun _ _ hr => reportOn_eq_ok hd haccepted hr⟩

/-- The reports on files in two presentations tell the same violations. -/
theorem reports_of_alike {files' : Files} {reports reports' : List InstanceReport}
    (h : task.reports files = .ok reports) (h' : task.reports files' = .ok reports')
    (hlimits : limits files' task.config task.maxStackDepth task.maxErrors =
      limits files task.config task.maxStackDepth task.maxErrors)
    (hcap : ∀ config, limits files task.config task.maxStackDepth task.maxErrors = .ok config →
      config.maxErrors = 0)
    (hschemas : ∀ file ∈ task.schemas, files.AlikeAt files' file)
    (hinstances : ∀ file ∈ task.instances, files.AlikeAt files' file) :
    List.Forall₂ (fun r r' => r.file = r'.file ∧ SameViolations r.report r'.report)
      reports reports' := by
  obtain ⟨config, documents, hconfig, hdocuments, hreports⟩ := reports_eq_ok h
  obtain ⟨config', documents', hconfig', hdocuments', hreports'⟩ := reports_eq_ok h'
  rw [hlimits, hconfig] at hconfig'
  cases hconfig'
  have hdocs : Direct.RestatesAll documents documents' :=
    forall₂_of_common hdocuments hdocuments' fun hfile hv hw =>
      Files.restates (hschemas _ hfile) hv hw
  refine forall₂_of_common hreports hreports' ?_
  rintro file r r' hfile ⟨hown, v, hv, hr⟩ ⟨hown', w, hw, hr'⟩
  have hvw := Files.restates (hinstances file hfile) hv hw
  exact ⟨hown.trans hown'.symm,
    sameViolations_of_perm (directAnswer_perm hdocs (hcap config hconfig) hvw hr hr')⟩

end Validation

/-- **A run prints what the direct interpreter of its documents finds.** The documents, the limits
and the instances are those in the files, and the exit code tells whether there is a violation. -/
theorem outcome_eq_direct {args : List String}
    (hargs : Request.ofArguments? args = some (.validate task))
    (hresult : (outcome files args).exitCode ≠ 2) :
    ∃ config documents reports,
      Validation.limits files task.config task.maxStackDepth task.maxErrors = .ok config ∧
      List.Forall₂ (fun file document => files.document file = .ok document) task.schemas
        documents ∧
      List.Forall₂ (fun file r => r.file = file ∧ ∃ v, files.document file = .ok v ∧
        directAnswer documents config task.selector v = .ok r.report) task.instances reports ∧
      outcome files args =
        { exitCode := exitCodeOf reports, output := reportsText task.format reports } := by
  rw [outcome_of_validate hargs] at hresult ⊢
  cases hreports : task.reports files with
  | error cause =>
      rw [hreports] at hresult
      exact absurd rfl hresult
  | ok reports =>
      obtain ⟨config, documents, hconfig, hdocuments, hinstances⟩ :=
        Validation.reports_eq_ok hreports
      exact ⟨config, documents, reports, hconfig, hdocuments, hinstances, rfl⟩

theorem exitCodeOf_congr {reports reports' : List InstanceReport}
    (h : List.Forall₂ (fun r r' => r.isValid = r'.isValid) reports reports') :
    exitCodeOf reports = exitCodeOf reports' := by
  have hall : reports.all InstanceReport.isValid = reports'.all InstanceReport.isValid := by
    induction h with
    | nil => rfl
    | cons hr _ ih => rw [List.all_cons, List.all_cons, hr, ih]
  unfold exitCodeOf
  rw [hall]

/-- **The exit code does not depend on how the files are written**, if there is no limit on
violations and both runs end with a result. -/
theorem exitCode_of_alike {files' : Files} {args : List String}
    (hargs : Request.ofArguments? args = some (.validate task))
    (hlimits : Validation.limits files' task.config task.maxStackDepth task.maxErrors =
      Validation.limits files task.config task.maxStackDepth task.maxErrors)
    (hcap : ∀ config, Validation.limits files task.config task.maxStackDepth task.maxErrors =
      .ok config → config.maxErrors = 0)
    (hschemas : ∀ file ∈ task.schemas, files.AlikeAt files' file)
    (hinstances : ∀ file ∈ task.instances, files.AlikeAt files' file)
    (hresult : (outcome files args).exitCode ≠ 2) (hresult' : (outcome files' args).exitCode ≠ 2) :
    (outcome files args).exitCode = (outcome files' args).exitCode := by
  rw [outcome_of_validate hargs] at hresult ⊢
  rw [outcome_of_validate hargs] at hresult' ⊢
  cases h : task.reports files with
  | error cause => rw [h] at hresult; exact absurd rfl hresult
  | ok reports =>
      cases h' : task.reports files' with
      | error cause => rw [h'] at hresult'; exact absurd rfl hresult'
      | ok reports' =>
          have hsame := Validation.reports_of_alike h h' hlimits hcap hschemas hinstances
          exact exitCodeOf_congr (hsame.imp fun _ _ hr => hr.2.verdict)

end Command

end JsonSchema
