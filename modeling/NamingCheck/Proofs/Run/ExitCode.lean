import NamingCheck.Proofs.Run.Plan
import NamingCheck.Proofs.Run.Writing
import NamingCheck.Proofs.SyntaxTree.Faults

/-!
# The exit code of a run

The exit code is that of the outcomes of the files, and it follows from three questions: does the
run start, can every file be checked, is every name accepted.
-/

namespace NamingCheck

open EntityTree (OwesVerdict)
open OrderedTree (preorder)

namespace Summary

theorem failures_isEmpty_ofOutcomes_iff (outcomes : List CheckedFile) :
    (ofOutcomes outcomes).failures.isEmpty = true ↔
      ∀ outcome ∈ outcomes, ∃ report, outcome.result = .ok report := by
  rw [List.isEmpty_iff, ofOutcomes, ofResults, List.filterMap_eq_nil_iff]
  refine forall₂_congr fun outcome _ => ?_
  rw [CheckedFile.failure?]
  cases outcome.result <;> simp

theorem compliant_ofOutcomes_iff (outcomes : List CheckedFile) :
    (ofOutcomes outcomes).compliant = true ↔
      ∀ outcome ∈ outcomes, ∀ report, outcome.result = .ok report →
        report.fileCompliant = true := by
  rw [ofOutcomes, ofResults, List.all_eq_true]
  simp only [List.mem_filterMap, CheckedFile.report?]
  constructor
  · intro hall outcome houtcome report hreport
    exact hall report ⟨outcome, houtcome, by rw [hreport]; rfl⟩
  · rintro hall report ⟨outcome, houtcome, hreport⟩
    refine hall outcome houtcome report ?_
    cases hresult : outcome.result with
    | error error => simp [hresult, Except.toOption] at hreport
    | ok found => simpa [hresult, Except.toOption] using hreport

end Summary

namespace Run

theorem check_exitCode (formatter : Formatter) (settings : Settings) (snapshot : Snapshot)
    (paths : List String) (fatalErrors json : Bool) (console : Console) :
    ((check formatter settings snapshot paths fatalErrors json).run console).1 =
      match plan settings snapshot paths with
      | .error _ => .trouble
      | .ok files =>
          exitCode <| .ofOutcomes <|
            CheckedFile.ofPaths
              { policy := settings.policy, fatalErrors := fatalErrors || settings.fatalErrors }
              snapshot formatter.verdict files := by
  cases hplan : plan settings snapshot paths with
  | error refusal =>
      rw [check, hplan]
      rfl
  | ok files =>
      exact congrArg Prod.fst (writes_check hplan formatter fatalErrors json console)

theorem exitCode_number (summary : Summary) :
    ((exitCode summary).number = 0 ↔
      summary.failures.isEmpty = true ∧ summary.compliant = true) ∧
    ((exitCode summary).number = 1 ↔
      summary.failures.isEmpty = true ∧ ¬summary.compliant = true) ∧
    ((exitCode summary).number = 2 ↔ ¬summary.failures.isEmpty = true) := by
  rw [exitCode]
  cases summary.failures.isEmpty <;> cases summary.compliant <;> simp [ExitCode.number]

/-- The callables of the checked files on which a verdict is due. -/
def IsEligible (settings : Settings) (snapshot : Snapshot) (paths : List String)
    (entity : Entity) : Prop :=
  ∃ file ∈ filesToCheck settings snapshot paths, ∃ content,
    snapshot.read file = .ok content ∧
      entity ∈ preorder (Lowering.fileEntity content.bytes file content.tree) ∧
      OwesVerdict entity

/-- Everything a run needs in order to speak about all the files it was asked to check. -/
structure Conclusive (settings : Settings) (snapshot : Snapshot) (paths : List String)
    (fatalErrors : Bool) : Prop where
  patterns_compile : settings.PatternsCompile
  paths_exist : PathsExist snapshot paths
  some_file : filesToCheck settings snapshot paths ≠ []
  files_parsed : ∀ file ∈ filesToCheck settings snapshot paths, ∃ content,
    snapshot.read file = .ok content ∧
      (fatalErrors = true ∨ settings.fatalErrors = true →
        ∀ node ∈ preorder content.tree, node.isFaulty = false)

/-- The outcomes of the files for which the arguments stand. -/
def outcomes (formatter : Formatter) (settings : Settings) (snapshot : Snapshot)
    (paths : List String) (fatalErrors : Bool) : List CheckedFile :=
  CheckedFile.ofPaths
    { policy := settings.policy, fatalErrors := fatalErrors || settings.fatalErrors }
    snapshot formatter.verdict (filesToCheck settings snapshot paths)

section

variable {settings : Settings} {snapshot : Snapshot} {paths : List String} {fatalErrors : Bool}

/-- The files to be checked all have a report exactly if all of them are read and parsed. -/
theorem forall_report_iff (formatter : Formatter)
    (hflags : fatalErrors = true ∨ settings.fatalErrors = true →
      ∀ file ∈ filesToCheck settings snapshot paths, ∀ content,
        snapshot.read file = .ok content → content.tree.FlagsAllFaults) :
    (∀ outcome ∈ outcomes formatter settings snapshot paths fatalErrors,
      ∃ report, outcome.result = .ok report) ↔
      ∀ file ∈ filesToCheck settings snapshot paths, ∃ content,
        snapshot.read file = .ok content ∧
          (fatalErrors = true ∨ settings.fatalErrors = true →
            ∀ node ∈ preorder content.tree, node.isFaulty = false) := by
  rw [outcomes, CheckedFile.ofPaths, List.forall_mem_map]
  refine forall₂_congr fun file hfile => ?_
  rw [CheckedFile.exists_report_iff]
  refine exists_congr fun content => and_congr_right fun hread => ?_
  rw [Bool.or_eq_true]
  exact forall_congr' fun hfatal =>
    SyntaxNode.errorLine?_eq_none_iff (hflags hfatal file hfile content hread)

/-- The reports are all compliant exactly if all eligible callables are accepted. -/
theorem forall_fileCompliant_iff (formatter : Formatter)
    (hconclusive : Conclusive settings snapshot paths fatalErrors)
    (hflags : fatalErrors = true ∨ settings.fatalErrors = true →
      ∀ file ∈ filesToCheck settings snapshot paths, ∀ content,
        snapshot.read file = .ok content → content.tree.FlagsAllFaults) :
    (∀ outcome ∈ outcomes formatter settings snapshot paths fatalErrors,
      ∀ report, outcome.result = .ok report → report.fileCompliant = true) ↔
      ∀ entity, IsEligible settings snapshot paths entity →
        settings.policy.Accepts entity.name := by
  rw [outcomes, CheckedFile.ofPaths, List.forall_mem_map]
  simp only [CheckedFile.ofPath_result, map_eq_ok_iff, LoadedFile.load_eq_ok_iff]
  constructor
  · rintro hall entity ⟨file, hfile, content, hread, hentity, howes⟩
    obtain ⟨content', hread', hclean⟩ := hconclusive.files_parsed file hfile
    obtain rfl : content' = content := Except.ok.inj (hread'.symm.trans hread)
    have hfatal : (fatalErrors || settings.fatalErrors) = true →
        content'.tree.errorLine? = none := by
      intro hfatal
      rw [Bool.or_eq_true] at hfatal
      exact (SyntaxNode.errorLine?_eq_none_iff (hflags hfatal file hfile content' hread)).2
        (hclean hfatal)
    have hreport := hall file hfile _ ⟨_, ⟨content', hread, hfatal, rfl⟩, rfl⟩
    exact (CheckedFile.fileCompliant_reportOn_iff _ _).1 hreport entity hentity howes
  · rintro hall file hfile report ⟨parsed, ⟨content, hread, -, rfl⟩, rfl⟩
    rw [CheckedFile.fileCompliant_reportOn_iff]
    intro entity hentity howes
    exact hall entity ⟨file, hfile, content, hread, hentity, howes⟩

/-- The exit code is 0 if everything was checked and accepted, 1 if everything was checked and some
name refused, and 2 in every other case. Where errors are fatal, no fault may lack its flag. -/
theorem check_exitCode_number (formatter : Formatter) (json : Bool) (console : Console)
    (hflags : fatalErrors = true ∨ settings.fatalErrors = true →
      ∀ file ∈ filesToCheck settings snapshot paths, ∀ content,
        snapshot.read file = .ok content → content.tree.FlagsAllFaults) :
    let code := ((check formatter settings snapshot paths fatalErrors json).run console).1
    (code.number = 0 ↔ Conclusive settings snapshot paths fatalErrors ∧
      ∀ entity, IsEligible settings snapshot paths entity →
        settings.policy.Accepts entity.name) ∧
    (code.number = 1 ↔ Conclusive settings snapshot paths fatalErrors ∧
      ∃ entity, IsEligible settings snapshot paths entity ∧
        ¬settings.policy.Accepts entity.name) ∧
    (code.number = 2 ↔ ¬Conclusive settings snapshot paths fatalErrors) := by
  intro code
  have hcode : code = _ :=
    check_exitCode formatter settings snapshot paths fatalErrors json console
  cases hplan : plan settings snapshot paths with
  | error refusal =>
      have hnot : ¬Conclusive settings snapshot paths fatalErrors := by
        intro hconclusive
        have hstart := (plan_eq_ok_iff settings snapshot paths _).2
          ⟨hconclusive.patterns_compile, hconclusive.paths_exist, rfl, hconclusive.some_file⟩
        rw [hplan] at hstart
        cases hstart
      rw [hcode, hplan]
      simp [ExitCode.number, hnot]
  | ok files =>
      obtain ⟨hpatterns, hpaths, rfl, hsome⟩ := (plan_eq_ok_iff settings snapshot paths _).1 hplan
      let summary := Summary.ofOutcomes (outcomes formatter settings snapshot paths fatalErrors)
      have hconclusive : summary.failures.isEmpty = true ↔
          Conclusive settings snapshot paths fatalErrors := by
        rw [Summary.failures_isEmpty_ofOutcomes_iff, forall_report_iff formatter hflags]
        exact ⟨fun hfiles => ⟨hpatterns, hpaths, hsome, hfiles⟩, fun h => h.files_parsed⟩
      have haccepted (h : Conclusive settings snapshot paths fatalErrors) :
          summary.compliant = true ↔
            ∀ entity, IsEligible settings snapshot paths entity →
              settings.policy.Accepts entity.name :=
        (Summary.compliant_ofOutcomes_iff _).trans (forall_fileCompliant_iff formatter h hflags)
      obtain ⟨hzero, hone, htwo⟩ := exitCode_number summary
      rw [hcode, hplan]
      refine ⟨hzero.trans ?_, hone.trans ?_, htwo.trans (not_congr hconclusive)⟩
      · rw [hconclusive]
        exact and_congr_right haccepted
      · rw [hconclusive]
        refine and_congr_right fun h => (not_congr (haccepted h)).trans ?_
        simp only [not_forall, exists_prop]

end

/-- `void draw() {}` -/
def drawSource : ByteArray := "void draw() \x7b\x7d".toUTF8

def drawDeclarator : SyntaxNode :=
  { SyntaxNode.blank with
    kind := .functionDeclarator
    field := some .declarator
    start := 5
    stop := 11
    children :=
      [{ SyntaxNode.blank with
         kind := .identifier
         field := some .declarator
         start := 5
         stop := 9 }] }

def drawDefinition : SyntaxNode :=
  { SyntaxNode.blank with
    kind := .functionDefinition
    stop := 14
    children := [drawDeclarator] }

def drawTree : SyntaxNode :=
  { SyntaxNode.blank with
    stop := 14
    children := [drawDefinition] }

def drawSnapshot : Snapshot where
  root := .directory [("a.cpp", .file ⟨drawSource, drawTree⟩)]
  workingDirectory := []

/-- A readable file without faults whose only function is called `draw`. -/
theorem check_exitCode_number_draw :
    ((check .json {} drawSnapshot ["a.cpp"] true true).run {}).1.number = 1 := by
  have hsteps : Path.steps "a.cpp" = ["a.cpp"] := by
    decide +kernel
  have hresolve : drawSnapshot.resolve "a.cpp" = .ok ["a.cpp"] := by
    rw [Snapshot.resolve, hsteps]
    simp only [drawSnapshot, Snapshot.walkSteps]
    decide +kernel
  have hread : drawSnapshot.read "a.cpp" = .ok ⟨drawSource, drawTree⟩ :=
    Snapshot.read_of_resolve hresolve rfl rfl
  have hfile : drawSnapshot.isDirectory "a.cpp" = false ∧ drawSnapshot.isFile "a.cpp" = true := by
    simp [Snapshot.isDirectory, Snapshot.isFile, (Snapshot.read_eq_ok_iff.1 hread).2]
  have hfiles : filesToCheck {} drawSnapshot ["a.cpp"] = ["a.cpp"] := by
    simp [filesToCheck, orWorkingDirectory, hfile]
  have hname : Declarator.functionName? drawSource drawDeclarator =
      some (.ofForm .plain "draw") := by
    decide +kernel
  have hlower : Lowering.lower drawSource drawDefinition none =
      [(Entity.ofKind .function "draw").onLine 1] := by
    rw [Lowering.lower_eq]
    change (((some drawDeclarator).bind _).map _).toList = _
    rw [Option.bind_some, hname]
    rfl
  have hentity : (Entity.ofKind .function "draw").onLine 1 ∈
      preorder (Lowering.fileEntity drawSource "a.cpp" drawTree) := by
    refine OrderedTree.mem_preorder_of_mem_children ?_ (OrderedTree.self_mem_preorder _)
    change _ ∈ [drawDefinition].flatMap fun child => Lowering.lower drawSource child none
    rw [List.flatMap_singleton, hlower]
    exact List.mem_singleton_self _
  refine (check_exitCode_number .json true {} ?_).2.1.2 ⟨?_, ?_⟩
  · intro _ file hmem content hcontent
    rw [hfiles, List.mem_singleton] at hmem
    rw [hmem, hread] at hcontent
    cases hcontent
    unfold SyntaxNode.FlagsAllFaults
    decide +kernel
  · refine ⟨?_, ?_, ?_, ?_⟩
    · intro pattern hmem
      exact absurd hmem List.not_mem_nil
    · simp [PathsExist, hfile]
    · simp [hfiles]
    · intro file hmem
      rw [hfiles, List.mem_singleton] at hmem
      subst hmem
      refine ⟨_, hread, fun _ => ?_⟩
      decide +kernel
  · refine ⟨(Entity.ofKind .function "draw").onLine 1, ?_, ?_⟩
    · exact ⟨"a.cpp", by rw [hfiles]; exact List.mem_singleton_self _, _, hread, hentity, by decide⟩
    · rw [← Policy.acceptingRule?_eq_none_iff]
      decide +kernel

end Run

end NamingCheck
