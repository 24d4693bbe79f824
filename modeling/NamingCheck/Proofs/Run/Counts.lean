import NamingCheck.Proofs.Run.Outcome

/-!
# The counts of a summary

Each count is taken by a pass of its own, and two of them go by the flags of the reports while the
others go by the verdicts. That they fit together rests on one fact about a report: its flag is up
exactly if all its verdicts accept. A report of a checked file has this from the way it is gathered,
and with it each count is a total over the reports and can be compared with the next, report by
report.
-/

namespace NamingCheck

/-! ### Outcomes sorted -/

/-- Each outcome is the next report or the next failure, and there are no others. -/
inductive SortsInto : List CheckedFile → List Report → List Failure → Prop
  | nil : SortsInto [] [] []
  | report {outcome : CheckedFile} {report : Report} {outcomes : List CheckedFile}
      {reports : List Report} {failures : List Failure} (hresult : outcome.result = .ok report)
      (hrest : SortsInto outcomes reports failures) :
      SortsInto (outcome :: outcomes) (report :: reports) failures
  | failure {outcome : CheckedFile} {error : FileError} {outcomes : List CheckedFile}
      {reports : List Report} {failures : List Failure} (hresult : outcome.result = .error error)
      (hrest : SortsInto outcomes reports failures) :
      SortsInto (outcome :: outcomes) reports
        ({ file := outcome.path, error := error.message } :: failures)

theorem SortsInto.length_eq {outcomes : List CheckedFile} {reports : List Report}
    {failures : List Failure} (hsorts : SortsInto outcomes reports failures) :
    reports.length + failures.length = outcomes.length := by
  induction hsorts with
  | nil => simp
  | report _ _ ih =>
      rw [List.length_cons, List.length_cons]
      omega
  | failure _ _ ih =>
      rw [List.length_cons, List.length_cons]
      omega

namespace Summary

theorem sortsInto_ofOutcomes (outcomes : List CheckedFile) :
    SortsInto outcomes (ofOutcomes outcomes).reports (ofOutcomes outcomes).failures := by
  change SortsInto outcomes (outcomes.filterMap CheckedFile.report?)
    (outcomes.filterMap CheckedFile.failure?)
  induction outcomes with
  | nil => exact .nil
  | cons outcome rest ih =>
      rw [List.filterMap_cons, List.filterMap_cons, CheckedFile.report?, CheckedFile.failure?]
      cases hresult : outcome.result with
      | ok report => exact .report hresult ih
      | error error => exact .failure hresult ih

end Summary

/-! ### The flag of a report -/

namespace Report

variable {report : Report}

/-- A flag that is down has a verdict to show for it. -/
theorem FlagsVerdicts.length_violations (hflags : report.FlagsVerdicts) :
    report.violations.length = 0 ↔ report.fileCompliant = true := by
  rw [FlagsVerdicts] at hflags
  rw [hflags, List.length_eq_zero_iff, violations, List.filter_eq_nil_iff]
  simp

theorem length_violations_le (report : Report) :
    report.violations.length ≤ report.verdicts.length :=
  List.length_filter_le _ _

end Report

theorem CheckedFile.flagsVerdicts_of_mem {options : CheckOptions} {snapshot : Snapshot}
    {render : Verdict → String} {paths : List String} {report : Report}
    (hmem : report ∈ (Summary.ofOutcomes (ofPaths options snapshot render paths)).reports) :
    report.FlagsVerdicts := by
  obtain ⟨path, -, parsed, -, rfl⟩ := mem_reports_iff.1 hmem
  exact (Report.flagsVerdicts_empty _).extend _

/-! ### The counts -/

namespace Summary

section

variable (reports : List Report) (failures : List Failure)

/-- All verdicts of a run, file by file. -/
def allVerdicts (summary : Summary) : List Verdict :=
  summary.reports.flatMap (·.verdicts)

theorem entitiesChecked_ofResults :
    (ofResults reports failures).entitiesChecked =
      (ofResults reports failures).allVerdicts.length :=
  (length_flatMap_eq_total _ _).symm

theorem violations_ofResults :
    (ofResults reports failures).violations =
      (ofResults reports failures).allVerdicts.countP fun verdict => !verdict.compliant := by
  calc total (fun report => report.violations.length) reports
      = (reports.flatMap Report.violations).length := (length_flatMap_eq_total _ _).symm
    _ = ((reports.flatMap (·.verdicts)).filter fun verdict => !verdict.compliant).length := by
        rw [List.filter_flatMap]
        rfl
    _ = (reports.flatMap (·.verdicts)).countP fun verdict => !verdict.compliant :=
        List.countP_eq_length_filter.symm

theorem violations_le_entitiesChecked :
    (ofResults reports failures).violations ≤ (ofResults reports failures).entitiesChecked :=
  total_le_total fun report _ => report.length_violations_le

theorem nonCompliantFiles_eq_zero_iff :
    (ofResults reports failures).nonCompliantFiles = 0 ↔
      (ofResults reports failures).compliant = true := by
  rw [nonCompliantFiles, List.length_eq_zero_iff, List.filter_eq_nil_iff, ofResults,
    List.all_eq_true]
  simp

variable {reports} (hflags : ∀ report ∈ reports, report.FlagsVerdicts)

include hflags

theorem violations_eq_zero_iff :
    (ofResults reports failures).violations = 0 ↔
      (ofResults reports failures).compliant = true := by
  rw [ofResults, total_eq_zero_iff, List.all_eq_true]
  exact forall₂_congr fun report hreport => (hflags report hreport).length_violations

/-- Report by report: where the flag is down, there is at least one violation. -/
theorem nonCompliantFiles_le_violations :
    (ofResults reports failures).nonCompliantFiles ≤ (ofResults reports failures).violations := by
  rw [nonCompliantFiles, length_filter_eq_total]
  apply total_le_total
  intro report hreport
  have hviolations := (hflags report hreport).length_violations
  cases hcompliant : report.fileCompliant with
  | true => exact Nat.zero_le _
  | false =>
      rw [hcompliant] at hviolations
      have hsome : report.violations.length ≠ 0 := fun hnone => nomatch hviolations.1 hnone
      exact Nat.one_le_iff_ne_zero.2 hsome

end

/-- The counts of a summary, against the outcomes it is made from and against one another. -/
structure Tallies (outcomes : List CheckedFile) (summary : Summary) : Prop where
  sortsInto : SortsInto outcomes summary.reports summary.failures
  filesChecked_add_failures : summary.filesChecked + summary.failures.length = outcomes.length
  entitiesChecked_eq : summary.entitiesChecked = summary.allVerdicts.length
  violations_eq :
    summary.violations = summary.allVerdicts.countP fun verdict => !verdict.compliant
  violations_eq_zero_iff : summary.violations = 0 ↔ summary.compliant = true
  nonCompliantFiles_eq_zero_iff : summary.nonCompliantFiles = 0 ↔ summary.compliant = true
  nonCompliantFiles_le_violations : summary.nonCompliantFiles ≤ summary.violations
  violations_le_entitiesChecked : summary.violations ≤ summary.entitiesChecked

theorem tallies_ofOutcomes {outcomes : List CheckedFile}
    (hflags : ∀ report ∈ (ofOutcomes outcomes).reports, report.FlagsVerdicts) :
    Tallies outcomes (ofOutcomes outcomes) where
  sortsInto := sortsInto_ofOutcomes outcomes
  filesChecked_add_failures := (sortsInto_ofOutcomes outcomes).length_eq
  entitiesChecked_eq := entitiesChecked_ofResults _ _
  violations_eq := violations_ofResults _ _
  violations_eq_zero_iff := violations_eq_zero_iff _ hflags
  nonCompliantFiles_eq_zero_iff := nonCompliantFiles_eq_zero_iff _ _
  nonCompliantFiles_le_violations := nonCompliantFiles_le_violations _ hflags
  violations_le_entitiesChecked := violations_le_entitiesChecked _ _

/-- A summary that holds what two others hold, with the counts added up. -/
structure SumOf (whole left right : Summary) : Prop where
  reports_eq : whole.reports = left.reports ++ right.reports
  failures_eq : whole.failures = left.failures ++ right.failures
  filesChecked_eq : whole.filesChecked = left.filesChecked + right.filesChecked
  entitiesChecked_eq : whole.entitiesChecked = left.entitiesChecked + right.entitiesChecked
  violations_eq : whole.violations = left.violations + right.violations
  nonCompliantFiles_eq :
    whole.nonCompliantFiles = left.nonCompliantFiles + right.nonCompliantFiles
  compliant_eq : whole.compliant = (left.compliant && right.compliant)

theorem sumOf_ofResults (reports more : List Report) (failures others : List Failure) :
    SumOf (ofResults (reports ++ more) (failures ++ others)) (ofResults reports failures)
      (ofResults more others) where
  reports_eq := rfl
  failures_eq := rfl
  filesChecked_eq := List.length_append
  entitiesChecked_eq := total_append _ _
  violations_eq := total_append _ _
  nonCompliantFiles_eq := by
    change ((reports ++ more).filter _).length = _
    rw [List.filter_append, List.length_append]
    rfl
  compliant_eq := List.all_append

theorem sumOf_ofOutcomes (outcomes more : List CheckedFile) :
    SumOf (ofOutcomes (outcomes ++ more)) (ofOutcomes outcomes) (ofOutcomes more) := by
  rw [ofOutcomes, List.filterMap_append, List.filterMap_append]
  exact sumOf_ofResults _ _ _ _

/-- Whatever becomes of the files, every outcome is counted once, the counts agree with the verdicts
and with the flags, and further outcomes add to them what they come to by themselves. -/
theorem ofPaths_tallies (options : CheckOptions) (snapshot : Snapshot) (render : Verdict → String)
    (paths : List String) :
    let outcomes := CheckedFile.ofPaths options snapshot render paths
    Tallies outcomes (ofOutcomes outcomes) ∧
      ∀ more : List CheckedFile,
        SumOf (ofOutcomes (outcomes ++ more)) (ofOutcomes outcomes) (ofOutcomes more) := by
  intro outcomes
  have hflags : ∀ report ∈ (ofOutcomes outcomes).reports, report.FlagsVerdicts :=
    fun _ hreport => CheckedFile.flagsVerdicts_of_mem hreport
  exact ⟨tallies_ofOutcomes hflags, fun more => sumOf_ofOutcomes outcomes more⟩

end Summary

end NamingCheck
