import NamingCheck.Proofs.Output.Document
import NamingCheck.Proofs.Output.Trace
import NamingCheck.Proofs.Run.Counts
import NamingCheck.Proofs.Run.ExitCode

/-!
# The document and the trace tell the same story

Both runs have the same outcomes, since a formatter has no say in them. What is printed for people
can be told from the summary alone, and the document holds nothing but the summary.
-/

namespace NamingCheck

/-! ### What a summary says to people -/

/-- The header with the file, one line for each verdict and the footer for the flag. -/
def Report.narrative (report : Report) : String :=
  "Checking functions and methods inside '" ++ report.file ++ "':\n"
    ++ String.join (report.verdicts.map fun verdict =>
      " - " ++ Formatter.statusTag verdict.compliant ++ verdict.name ++ "\n")
    ++ Formatter.footerMessage report.fileCompliant ++ "\n"

namespace Summary

/-- One report after the other, and what they come to if there was more than one file. -/
def narrative (summary : Summary) : String :=
  String.join (summary.reports.map Report.narrative)
    ++ if 1 < summary.reports.length + summary.failures.length then Formatter.summaryLine summary
      else ""

def complaints (summary : Summary) : String :=
  String.join (summary.failures.map fun failure => "error: " ++ failure.error ++ "\n")

end Summary

/-! ### From outcomes to the summary -/

namespace CheckedFile

section

variable (options : CheckOptions) (snapshot : Snapshot) (render : Verdict → String)

/-- How verdicts are rendered shows in the traces only. -/
theorem ofOutcomes_render (other : Verdict → String) (paths : List String) :
    Summary.ofOutcomes (ofPaths options snapshot render paths) =
      Summary.ofOutcomes (ofPaths options snapshot other paths) := by
  have hreport (path : String) : (ofPath options snapshot render path).report? =
      (ofPath options snapshot other path).report? := by
    rw [report?, report?, ofPath_result, ofPath_result]
  have hfailure (path : String) : (ofPath options snapshot render path).failure? =
      (ofPath options snapshot other path).failure? := by
    rw [failure?, failure?, ofPath_result, ofPath_result, ofPath_path, ofPath_path]
  rw [Summary.ofOutcomes, Summary.ofOutcomes, ofPaths, ofPaths]
  simp only [List.filterMap_map, Function.comp_def, hreport, hfailure]

end

/-- Texts that come from the picked parts of some items are the texts of all that was picked. -/
theorem join_map_filterMap {α β : Type} {text : α → String} {pick : α → Option β}
    {textOf : β → String} {items : List α}
    (htext : ∀ item ∈ items, text item = ((pick item).map textOf).getD "") :
    String.join (items.map text) = String.join ((items.filterMap pick).map textOf) := by
  induction items with
  | nil => rfl
  | cons item rest ih =>
      rw [List.forall_mem_cons] at htext
      rw [List.map_cons, String.join_cons, htext.1, ih htext.2, List.filterMap_cons]
      cases pick item with
      | none => exact String.empty_append
      | some picked => exact String.join_cons.symm

section

variable (options : CheckOptions) (snapshot : Snapshot) (paths : List String)

theorem stdout_shown_human :
    let outcomes := ofPaths options snapshot (Formatter.human .plain).verdict paths
    (Run.shown (.human .plain) outcomes).stdout =
      String.join ((Summary.ofOutcomes outcomes).reports.map Report.narrative) := by
  intro outcomes
  rw [Run.stdout_shown]
  refine join_map_filterMap fun outcome houtcome => ?_
  obtain ⟨path, -, rfl⟩ := List.mem_map.1 houtcome
  have htrace := ofPath_trace options snapshot (Formatter.human .plain).verdict path
  rw [printed, report?]
  cases hresult : (ofPath options snapshot (Formatter.human .plain).verdict path).result with
  | error error => rfl
  | ok report =>
      rw [hresult] at htrace
      dsimp only
      rw [htrace, Formatter.footer_plain, traceOf, funext Formatter.verdict_plain,
        ← String.append_assoc]
      rfl

theorem stderr_shown_human :
    let outcomes := ofPaths options snapshot (Formatter.human .plain).verdict paths
    (Run.shown (.human .plain) outcomes).stderr = (Summary.ofOutcomes outcomes).complaints := by
  intro outcomes
  rw [Run.stderr_shown]
  refine join_map_filterMap fun outcome _ => ?_
  rw [printed, failure?]
  cases outcome.result <;> rfl

theorem stdout_shown_json :
    (Run.shown .json (ofPaths options snapshot Formatter.json.verdict paths)).stdout = "" := by
  rw [Run.stdout_shown, ofPaths, List.map_map]
  refine join_map_eq_empty (fun path => ?_) paths
  have htrace := ofPath_trace options snapshot Formatter.json.verdict path
  rw [Function.comp_apply, printed]
  cases hresult : (ofPath options snapshot Formatter.json.verdict path).result with
  | error error => rfl
  | ok report =>
      rw [hresult] at htrace
      have hsilent : traceOf Formatter.json.verdict (.ok report) = "" :=
        join_map_eq_empty (fun _ => rfl) report.verdicts
      dsimp only
      rw [htrace, hsilent]
      rfl

end

end CheckedFile

namespace Run

/-! ### The two runs -/

/-- The document holds the summary and nothing else, and the trace is what this summary says to
people. Whether or not its counts fit, no other summary has the document. -/
structure SameStory (summary : Summary) (human json : ExitCode × Console) : Prop where
  exitCode_eq : human.1 = json.1
  stdout_json : json.2.stdout = summary.document
  parse?_stdout : Json.parse? json.2.stdout = some summary.toJson
  ofDocument?_stdout : summary.CountsFit → Summary.ofDocument? json.2.stdout = some summary
  summary_unique : ∀ other : Summary, other.document = json.2.stdout → other = summary
  stdout_human : human.2.stdout = summary.narrative
  stderr_human : human.2.stderr = summary.complaints

section

variable (settings : Settings) (snapshot : Snapshot) (fatalErrors : Bool)
  {paths files : List String}

/-- Whether a trace ends with a summary can be told from the summary. -/
theorem closingText_human (palette : Palette) (options : CheckOptions) (render : Verdict → String) :
    let summary := Summary.ofOutcomes (CheckedFile.ofPaths options snapshot render files)
    closingText (.human palette) false files summary =
      if 1 < summary.reports.length + summary.failures.length then Formatter.summaryLine summary
      else "" := by
  intro summary
  rw [(Summary.sortsInto_ofOutcomes _).length_eq, CheckedFile.ofPaths, List.length_map,
    closingText, wantsSummary, Bool.false_or]
  simp only [decide_eq_true_eq]
  rfl

theorem run_check_human (hplan : plan settings snapshot paths = .ok files) :
    let summary := Summary.ofOutcomes <|
      CheckedFile.ofPaths (optionsOf settings fatalErrors) snapshot
        (Formatter.human .plain).verdict files
    let run := (check (.human .plain) settings snapshot paths fatalErrors false).run {}
    run.1 = exitCode summary ∧ run.2.stdout = summary.narrative ∧
      run.2.stderr = summary.complaints := by
  intro summary run
  have hrun : run = _ := (writes_check hplan (.human .plain) fatalErrors false).run_empty
  rw [hrun]
  refine ⟨rfl, ?_, ?_⟩
  · rw [Console.stdout_append, Console.stdout_append, CheckedFile.stdout_shown_human,
      closingText_human, String.empty_append, Summary.narrative]
  · rw [Console.stderr_append, Console.stderr_append, CheckedFile.stderr_shown_human,
      String.append_empty, String.empty_append]

theorem run_check_json (hplan : plan settings snapshot paths = .ok files) :
    let summary := Summary.ofOutcomes <|
      CheckedFile.ofPaths (optionsOf settings fatalErrors) snapshot Formatter.json.verdict files
    let run := (check .json settings snapshot paths fatalErrors true).run {}
    run.1 = exitCode summary ∧ run.2.stdout = summary.document := by
  intro summary run
  have hrun : run = _ := (writes_check hplan .json fatalErrors true).run_empty
  rw [hrun]
  refine ⟨rfl, ?_⟩
  rw [Console.stdout_append, Console.stdout_append, CheckedFile.stdout_shown_json,
    String.empty_append, String.empty_append]
  rfl

/-- The two formats differ in form only: the exit code is the same, and from the document alone it
can be told what the other run prints. -/
theorem check_sameStory (hplan : plan settings snapshot paths = .ok files) :
    ∃ summary, SameStory summary
      ((check (.human .plain) settings snapshot paths fatalErrors false).run {})
      ((check .json settings snapshot paths fatalErrors true).run {}) := by
  obtain ⟨hcode, hstdout⟩ := run_check_json settings snapshot fatalErrors hplan
  obtain ⟨hcodeHuman, hstdoutHuman, hstderrHuman⟩ :=
    run_check_human settings snapshot fatalErrors hplan
  have hsame := CheckedFile.ofOutcomes_render (optionsOf settings fatalErrors) snapshot
    (Formatter.human .plain).verdict Formatter.json.verdict files
  rw [hsame] at hcodeHuman hstdoutHuman hstderrHuman
  refine ⟨_, hcodeHuman.trans hcode.symm, hstdout, ?_, ?_, ?_, hstdoutHuman, hstderrHuman⟩
  · rw [hstdout, Summary.parse?_document]
  · intro hfit
    rw [hstdout, Summary.ofDocument?, Summary.parse?_document, Option.bind_some,
      Summary.ofJson?_toJson hfit]
  · intro other hdocument
    exact Summary.document_injective (hdocument.trans hstdout)

end

/-- A single file is told about without a summary at the end. -/
theorem check_sameStory_draw :
    let snapshot := Snapshot.ofFile "a.cpp" ⟨drawSource, drawTree⟩
    plan {} snapshot ["a.cpp"] = .ok ["a.cpp"] ∧
      ∃ summary, SameStory summary
        ((check (.human .plain) {} snapshot ["a.cpp"] false false).run {})
        ((check .json {} snapshot ["a.cpp"] false true).run {}) := by
  intro snapshot
  have hplan : plan {} snapshot ["a.cpp"] = .ok ["a.cpp"] :=
    plan_of_isFile (fun _ hpattern => absurd hpattern List.not_mem_nil) nofun
      (List.forall_mem_singleton.2 (isFile_of_read (Snapshot.read_ofFile _)))
  exact ⟨hplan, check_sameStory {} snapshot false hplan⟩

end Run

end NamingCheck
