import NamingCheck.Proofs.Run.ExitCode
import NamingCheck.Proofs.Verdict.Exemption

/-!
# A run with more exempt names

The exempt names have no say in which files are found and loaded. So the two runs have the same
outcomes but for what the verdicts of a report may change, and the counts and the exit code follow.
-/

namespace NamingCheck

namespace CheckedFile

/-- What becomes of an outcome when more names are exempt. The trace renders the verdicts and is not
spoken of. -/
structure Relaxes (fewer more : List String) (strict lenient : CheckedFile) : Prop where
  path_eq : lenient.path = strict.path
  events_eq : lenient.events = strict.events
  error_iff : ∀ error, lenient.result = .error error ↔ strict.result = .error error
  report : ∀ report, strict.result = .ok report →
    ∃ relaxed, lenient.result = .ok relaxed ∧ report.Relaxes fewer more relaxed

/-- The two outcomes are both reports or both the same failure. -/
theorem Relaxes.cases {fewer more : List String} {strict lenient : CheckedFile}
    (hrelaxes : Relaxes fewer more strict lenient) :
    (∃ report relaxed, strict.report? = some report ∧ lenient.report? = some relaxed ∧
      strict.failure? = none ∧ lenient.failure? = none ∧ report.Relaxes fewer more relaxed) ∨
    (strict.report? = none ∧ lenient.report? = none ∧
      ∃ failure, strict.failure? = some failure ∧ lenient.failure? = some failure) := by
  rw [report?, report?, failure?, failure?, hrelaxes.path_eq]
  cases hstrict : strict.result with
  | ok report =>
      obtain ⟨relaxed, hlenient, hreport⟩ := hrelaxes.report report hstrict
      rw [hlenient]
      exact Or.inl ⟨report, relaxed, rfl, rfl, rfl, rfl, hreport⟩
  | error error =>
      rw [(hrelaxes.error_iff error).2 hstrict]
      exact Or.inr ⟨rfl, rfl, _, rfl, rfl⟩

variable {fewer more : List String} (fatalErrors : Bool) (snapshot : Snapshot)
  (render : Verdict → String)

theorem relaxes_ofPath (hsub : fewer ⊆ more) (path : String) :
    Relaxes fewer more (ofPath ⟨⟨fewer⟩, fatalErrors⟩ snapshot render path)
      (ofPath ⟨⟨more⟩, fatalErrors⟩ snapshot render path) := by
  rw [ofPath_eq, ofPath_eq]
  cases LoadedFile.load snapshot path fatalErrors with
  | error error => exact ⟨rfl, rfl, fun _ => Iff.rfl, nofun⟩
  | ok parsed =>
      refine ⟨rfl, rfl, fun _ => ⟨nofun, nofun⟩, ?_⟩
      rintro report ⟨⟩
      exact ⟨_, rfl, Report.relaxes_extend_empty _ (Policy.relaxes_verdicts hsub parsed.root)⟩

theorem relaxes_ofPaths (hsub : fewer ⊆ more) (paths : List String) :
    List.Forall₂ (Relaxes fewer more) (ofPaths ⟨⟨fewer⟩, fatalErrors⟩ snapshot render paths)
      (ofPaths ⟨⟨more⟩, fatalErrors⟩ snapshot render paths) := by
  rw [ofPaths, ofPaths, List.forall₂_map_left_iff, List.forall₂_map_right_iff, List.forall₂_same]
  exact fun path _ => relaxes_ofPath fatalErrors snapshot render hsub path

/-- The order of the exempt names and how often each is given do not matter. -/
theorem ofPath_eq_of_same_names (hsame : ∀ name, name ∈ fewer ↔ name ∈ more) :
    ofPath ⟨⟨fewer⟩, fatalErrors⟩ snapshot render =
      ofPath ⟨⟨more⟩, fatalErrors⟩ snapshot render := by
  funext path
  have hverdicts (root : Entity) : Policy.verdicts ⟨fewer⟩ root = Policy.verdicts ⟨more⟩ root :=
    Policy.verdicts_congr hsame root
  rw [ofPath_eq, ofPath_eq]
  cases LoadedFile.load snapshot path fatalErrors with
  | error error => rfl
  | ok parsed => simp only [reportOn, hverdicts]

end CheckedFile

namespace Summary

/-- What becomes of a summary when more names are exempt. -/
structure Relaxes (fewer more : List String) (strict lenient : Summary) : Prop where
  reports : List.Forall₂ (Report.Relaxes fewer more) strict.reports lenient.reports
  failures_eq : lenient.failures = strict.failures
  violations_le : lenient.violations ≤ strict.violations
  compliant_of_compliant : strict.compliant = true → lenient.compliant = true

variable {fewer more : List String}

theorem relaxes_reports {strict lenient : List CheckedFile}
    (hrelaxes : List.Forall₂ (CheckedFile.Relaxes fewer more) strict lenient) :
    List.Forall₂ (Report.Relaxes fewer more) (ofOutcomes strict).reports
        (ofOutcomes lenient).reports ∧
      (ofOutcomes lenient).failures = (ofOutcomes strict).failures := by
  change List.Forall₂ _ (strict.filterMap _) (lenient.filterMap _) ∧
    lenient.filterMap _ = strict.filterMap _
  induction hrelaxes with
  | nil => exact ⟨.nil, rfl⟩
  | cons houtcome _ ih =>
      simp only [List.filterMap_cons]
      rcases houtcome.cases with ⟨_, _, hstrict, hlenient, hfailure, hfailure', hreport⟩ |
        ⟨hstrict, hlenient, _, hfailure, hfailure'⟩
      · rw [hstrict, hlenient, hfailure, hfailure']
        exact ⟨.cons hreport ih.1, ih.2⟩
      · rw [hstrict, hlenient, hfailure, hfailure']
        exact ⟨ih.1, congrArg _ ih.2⟩

theorem total_violations_le {strict lenient : List Report}
    (hrelaxes : List.Forall₂ (Report.Relaxes fewer more) strict lenient) :
    total (fun report => report.violations.length) lenient ≤
      total (fun report => report.violations.length) strict := by
  induction hrelaxes with
  | nil => exact Nat.le_refl _
  | cons hreport _ ih => exact Nat.add_le_add hreport.violations_sublist.length_le ih

theorem all_fileCompliant {strict lenient : List Report}
    (hrelaxes : List.Forall₂ (Report.Relaxes fewer more) strict lenient)
    (hcompliant : strict.all (·.fileCompliant) = true) :
    lenient.all (·.fileCompliant) = true := by
  induction hrelaxes with
  | nil => rfl
  | cons hreport _ ih =>
      rw [List.all_cons, Bool.and_eq_true] at hcompliant ⊢
      exact ⟨hreport.fileCompliant_of_fileCompliant hcompliant.1, ih hcompliant.2⟩

theorem relaxes_ofOutcomes {strict lenient : List CheckedFile}
    (hrelaxes : List.Forall₂ (CheckedFile.Relaxes fewer more) strict lenient) :
    Relaxes fewer more (ofOutcomes strict) (ofOutcomes lenient) where
  reports := (relaxes_reports hrelaxes).1
  failures_eq := (relaxes_reports hrelaxes).2
  violations_le := total_violations_le (relaxes_reports hrelaxes).1
  compliant_of_compliant := all_fileCompliant (relaxes_reports hrelaxes).1

theorem Relaxes.exitCode_le {strict lenient : Summary}
    (hrelaxes : Relaxes fewer more strict lenient) :
    (Run.exitCode lenient).number ≤ (Run.exitCode strict).number := by
  rw [Run.exitCode, Run.exitCode, hrelaxes.failures_eq]
  have hcompliant := hrelaxes.compliant_of_compliant
  cases strict.failures.isEmpty <;> cases hstrict : strict.compliant <;>
    cases hlenient : lenient.compliant <;> simp_all [ExitCode.number]

end Summary

/-- The same settings with other exempt names. -/
def Settings.exempting (settings : Settings) (names : List String) : Settings :=
  { settings with exemptNames := names }

namespace Run

theorem plan_exempting (settings : Settings) (names : List String) (snapshot : Snapshot)
    (paths : List String) :
    plan (settings.exempting names) snapshot paths = plan settings snapshot paths := rfl

variable {fewer more : List String}

/-- The names have no say in the plan, so both runs start or neither does. -/
theorem check_exitCode_le (hsub : fewer ⊆ more) (formatter : Formatter) (settings : Settings)
    (snapshot : Snapshot) (paths : List String) (fatalErrors json : Bool) :
    let code (names : List String) :=
      ((check formatter (settings.exempting names) snapshot paths fatalErrors json).run {}).1
    (code more).number ≤ (code fewer).number := by
  intro code
  have hcode (names : List String) : code names = _ :=
    check_exitCode formatter (settings.exempting names) snapshot paths fatalErrors json {}
  rw [hcode more, hcode fewer, plan_exempting, plan_exempting]
  cases plan settings snapshot paths with
  | error refusal => exact Nat.le_refl _
  | ok files =>
      exact (Summary.relaxes_ofOutcomes
        (CheckedFile.relaxes_ofPaths _ snapshot formatter.verdict hsub files)).exitCode_le

theorem check_eq_of_same_names (hsame : ∀ name, name ∈ fewer ↔ name ∈ more)
    (formatter : Formatter) (settings : Settings) (snapshot : Snapshot) (paths : List String)
    (fatalErrors json : Bool) :
    check formatter (settings.exempting fewer) snapshot paths fatalErrors json =
      check formatter (settings.exempting more) snapshot paths fatalErrors json := by
  cases hplan : plan settings snapshot paths with
  | error refusal =>
      rw [check, check, plan_exempting, plan_exempting, hplan]
      rfl
  | ok files =>
      have hstart (names : List String) :=
        writes_check ((plan_exempting settings names snapshot paths).trans hplan) formatter
          fatalErrors json
      have hoptions := CheckedFile.ofPath_eq_of_same_names
        (fatalErrors || settings.fatalErrors) snapshot formatter.verdict hsame
      refine (hstart fewer).eq (Eq.mp ?_ (hstart more))
      simp only [optionsOf, Settings.policy, Settings.exempting, CheckedFile.ofPaths, hoptions]
      rfl

end Run

namespace CheckedFile

/-- Exempting further names changes the verdicts on just these names: each is then accepted, because
it is exempt. All other verdicts, their order and the failures stay, so there are no new violations
and no higher exit code. Names that were exempt before, in whatever order, change nothing at all. -/
theorem ofPaths_relaxes {fewer more : List String} (hsub : fewer ⊆ more) (fatalErrors : Bool)
    (snapshot : Snapshot) (render : Verdict → String) (paths : List String) :
    let outcomes (names : List String) := ofPaths ⟨⟨names⟩, fatalErrors⟩ snapshot render paths
    let summary (names : List String) := Summary.ofOutcomes (outcomes names)
    List.Forall₂ (Relaxes fewer more) (outcomes fewer) (outcomes more) ∧
      (summary fewer).Relaxes fewer more (summary more) ∧
      (Run.exitCode (summary more)).number ≤ (Run.exitCode (summary fewer)).number ∧
      (more ⊆ fewer → outcomes more = outcomes fewer) ∧
      ∀ (formatter : Formatter) (settings : Settings) (arguments : List String) (json : Bool),
        let run (names : List String) :=
          (Run.check formatter (settings.exempting names) snapshot arguments fatalErrors json).run
            {}
        (run more).1.number ≤ (run fewer).1.number ∧ (more ⊆ fewer → run more = run fewer) := by
  intro outcomes summary
  have hrelaxes := relaxes_ofPaths fatalErrors snapshot render hsub paths
  have hsame (hback : more ⊆ fewer) (name : String) : name ∈ more ↔ name ∈ fewer :=
    ⟨fun hmore => hback hmore, fun hfewer => hsub hfewer⟩
  refine ⟨hrelaxes, Summary.relaxes_ofOutcomes hrelaxes,
    (Summary.relaxes_ofOutcomes hrelaxes).exitCode_le, fun hback => ?_,
    fun formatter settings arguments json => ⟨?_, fun hback => ?_⟩⟩
  · exact congrArg paths.map
      (ofPath_eq_of_same_names fatalErrors snapshot render (hsame hback))
  · exact Run.check_exitCode_le hsub formatter settings snapshot arguments fatalErrors json
  · dsimp only
    rw [Run.check_eq_of_same_names (hsame hback)]

/-- The name of the only function becomes exempt, and how often it is given makes no difference. -/
theorem ofPaths_relaxes_draw :
    let outcomes (names : List String) :=
      ofPaths ⟨⟨names⟩, true⟩ (Snapshot.ofFile "a.cpp" ⟨Run.drawSource, Run.drawTree⟩) Verdict.name
        ["b.cpp", "a.cpp"]
    ["begin"] ⊆ ["draw", "begin", "draw"] ∧
      List.Forall₂ (Relaxes ["begin"] ["draw", "begin", "draw"]) (outcomes ["begin"])
        (outcomes ["draw", "begin", "draw"]) ∧
      outcomes ["draw", "begin", "draw"] = outcomes ["begin", "draw"] := by
  intro outcomes
  have hadded : ["begin"] ⊆ ["draw", "begin", "draw"] := by
    decide
  exact ⟨hadded, (ofPaths_relaxes hadded true _ _ _).1,
    (ofPaths_relaxes (by decide) true _ _ _).2.2.2.1 (by decide)⟩

end CheckedFile

end NamingCheck
