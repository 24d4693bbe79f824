import NamingCheck.Proofs.Run.ExitCode

/-!
# Many files as single files

A run over many files prints what the runs over each of them print, in their order, and then a
summary. Its exit code is the gravest of theirs.
-/

namespace NamingCheck

namespace Summary

theorem failures_isEmpty_cons (outcome : CheckedFile) (rest : List CheckedFile) :
    (ofOutcomes (outcome :: rest)).failures.isEmpty =
      ((ofOutcomes [outcome]).failures.isEmpty && (ofOutcomes rest).failures.isEmpty) := by
  rw [Bool.eq_iff_iff, Bool.and_eq_true]
  simp only [failures_isEmpty_ofOutcomes_iff, List.forall_mem_cons, List.not_mem_nil,
    false_implies, implies_true, and_true]

theorem compliant_cons (outcome : CheckedFile) (rest : List CheckedFile) :
    (ofOutcomes (outcome :: rest)).compliant =
      ((ofOutcomes [outcome]).compliant && (ofOutcomes rest).compliant) := by
  rw [Bool.eq_iff_iff, Bool.and_eq_true]
  simp only [compliant_ofOutcomes_iff, List.forall_mem_cons, List.not_mem_nil, false_implies,
    implies_true, and_true]

end Summary

namespace Run

/-! ### Exit codes -/

theorem number_exitCode_cons (outcome : CheckedFile) (rest : List CheckedFile) :
    (exitCode (.ofOutcomes (outcome :: rest))).number =
      max (exitCode (.ofOutcomes [outcome])).number (exitCode (.ofOutcomes rest)).number := by
  simp only [exitCode, Summary.failures_isEmpty_cons outcome rest,
    Summary.compliant_cons outcome rest]
  cases (Summary.ofOutcomes [outcome]).failures.isEmpty <;>
    cases (Summary.ofOutcomes rest).failures.isEmpty <;>
    cases (Summary.ofOutcomes [outcome]).compliant <;>
    cases (Summary.ofOutcomes rest).compliant <;> decide

theorem max?_exitCodes {outcomes : List CheckedFile} (hsome : outcomes ≠ []) :
    (outcomes.map fun outcome => (exitCode (.ofOutcomes [outcome])).number).max? =
      some (exitCode (.ofOutcomes outcomes)).number := by
  induction outcomes with
  | nil => exact absurd rfl hsome
  | cons first rest ih =>
      cases rest with
      | nil => rfl
      | cons second rest =>
          rw [List.map_cons, List.max?_cons, ih nofun, Option.elim_some,
            number_exitCode_cons first (second :: rest)]

/-! ### Runs -/

/-- The runs in a row print what the whole run prints but for the summary at its end, and the
gravest of their exit codes is that of the whole run. -/
structure PutTogether (whole : ExitCode × Console) (parts : List (ExitCode × Console))
    (summary : String) : Prop where
  stdout_eq : whole.2.stdout = String.join (parts.map (·.2.stdout)) ++ summary
  stderr_eq : whole.2.stderr = String.join (parts.map (·.2.stderr))
  exitCode_eq : (parts.map (·.1.number)).max? = some whole.1.number

section

variable (formatter : Formatter) (options : CheckOptions) (snapshot : Snapshot)
  {files : List String}

/-- What is logged at the start of a run does not count. -/
theorem putTogether_shown (hsome : files ≠ []) (summary : String) (before : List Event)
    (beforeEach : String → List Event) :
    let outcomes := CheckedFile.ofPaths options snapshot formatter.verdict
    PutTogether
      (exitCode (.ofOutcomes (outcomes files)),
        { events := before } ++ (shown formatter (outcomes files) ++ { stdout := summary }))
      (files.map fun file =>
        (exitCode (.ofOutcomes (outcomes [file])),
          { events := beforeEach file } ++ (shown formatter (outcomes [file]) ++ { stdout := "" })))
      summary := by
  intro outcomes
  refine ⟨?_, ?_, ?_⟩
  · simp [outcomes, CheckedFile.ofPaths, Function.comp_def]
  · simp [outcomes, CheckedFile.ofPaths, Function.comp_def]
  · have houtcomes : outcomes files ≠ [] := fun hnil => hsome (List.map_eq_nil_iff.1 hnil)
    rw [← max?_exitCodes houtcomes, List.map_map]
    simp only [outcomes, CheckedFile.ofPaths, List.map_map, List.map_singleton]
    rfl

theorem closingText_of_many (hmany : 2 ≤ files.length) (json : Bool) (summary : Summary) :
    closingText formatter json files summary = formatter.summary summary := by
  have hwants : wantsSummary json files = true := by
    rw [wantsSummary, Bool.or_eq_true, decide_eq_true_eq]
    exact Or.inr hmany
  rw [closingText, if_pos hwants]

theorem ne_nil_of_many (hmany : 2 ≤ files.length) : files ≠ [] := by
  rintro rfl
  cases hmany

theorem putTogether_checkKnown (hmany : 2 ≤ files.length) :
    PutTogether ((checkKnown formatter options snapshot files false).run {})
      (files.map fun file => (checkKnown formatter options snapshot [file] false).run {})
      (formatter.summary <| .ofOutcomes <|
        CheckedFile.ofPaths options snapshot formatter.verdict files) := by
  have hwhole := (writes_checkKnown formatter options snapshot files false).run_empty.trans
    (congrArg (Prod.mk _) (Console.empty_append _).symm)
  have hpart (file : String) (_ : file ∈ files) :=
    (writes_checkKnown formatter options snapshot [file] false).run_empty.trans
      (congrArg (Prod.mk _) (Console.empty_append _).symm)
  rw [closingText_of_many formatter hmany] at hwhole
  rw [hwhole, List.map_congr_left hpart]
  exact putTogether_shown formatter options snapshot (ne_nil_of_many hmany) _ [] fun _ => []

theorem putTogether_check {settings : Settings} (fatalErrors : Bool) {paths : List String}
    (hplan : plan settings snapshot paths = .ok files) (hmany : 2 ≤ files.length)
    (hfiles : ∀ file ∈ files, snapshot.isFile file = true) :
    PutTogether ((check formatter settings snapshot paths fatalErrors false).run {})
      (files.map fun file => (check formatter settings snapshot [file] fatalErrors false).run {})
      (formatter.summary <| .ofOutcomes <|
        CheckedFile.ofPaths (optionsOf settings fatalErrors) snapshot formatter.verdict files) := by
  have hpatterns := ((plan_eq_ok_iff settings snapshot paths files).1 hplan).1
  have hwhole := (writes_check hplan formatter fatalErrors false).run_empty
  have hpart (file : String) (hfile : file ∈ files) :=
    (writes_check (plan_of_isFile hpatterns (List.cons_ne_nil file [])
      (List.forall_mem_singleton.2 (hfiles file hfile))) formatter fatalErrors false).run_empty
  rw [closingText_of_many formatter hmany] at hwhole
  rw [hwhole, List.map_congr_left hpart]
  exact putTogether_shown formatter (optionsOf settings fatalErrors) snapshot
    (ne_nil_of_many hmany) _ _ _

end

/-- Streaming a file and checking it by itself are the same in everything. Hence many files, whether
they can be read or not, are checked as if each were checked alone; and a run that finds many files
does what the runs on the single files do, with one summary at the end. -/
theorem check_of_single_runs (formatter : Formatter) (snapshot : Snapshot) :
    (∀ (options : CheckOptions) (path : String),
      streamFile formatter options snapshot path =
        checkEach formatter options snapshot [path]) ∧
    (∀ (options : CheckOptions) (files : List String), 2 ≤ files.length →
      PutTogether ((checkKnown formatter options snapshot files false).run {})
        (files.map fun file => (checkKnown formatter options snapshot [file] false).run {})
        (formatter.summary <| .ofOutcomes <|
          CheckedFile.ofPaths options snapshot formatter.verdict files)) ∧
    ∀ (settings : Settings) (fatalErrors : Bool) (paths files : List String),
      plan settings snapshot paths = .ok files → 2 ≤ files.length →
      (∀ file ∈ files, snapshot.isFile file = true) →
      PutTogether ((check formatter settings snapshot paths fatalErrors false).run {})
        (files.map fun file => (check formatter settings snapshot [file] fatalErrors false).run {})
        (formatter.summary <| .ofOutcomes <|
          CheckedFile.ofPaths (optionsOf settings fatalErrors) snapshot formatter.verdict files) :=
  ⟨fun options path => streamFile_eq_checkEach formatter options snapshot path,
    fun options _ hmany => putTogether_checkKnown formatter options snapshot hmany,
    fun _ fatalErrors _ _ hplan hmany hfiles =>
      putTogether_check formatter snapshot fatalErrors hplan hmany hfiles⟩

/-- The same file twice. -/
theorem check_of_single_runs_draw :
    let snapshot := Snapshot.ofFile "a.cpp" ⟨drawSource, drawTree⟩
    let run (paths : List String) := (check (.human .plain) {} snapshot paths false false).run {}
    plan {} snapshot ["a.cpp", "a.cpp"] = .ok ["a.cpp", "a.cpp"] ∧
      snapshot.isFile "a.cpp" = true ∧
      (∃ summary, (run ["a.cpp", "a.cpp"]).2.stdout =
        (run ["a.cpp"]).2.stdout ++ (run ["a.cpp"]).2.stdout ++ Formatter.summaryLine summary) ∧
      (run ["a.cpp", "a.cpp"]).1.number = (run ["a.cpp"]).1.number := by
  intro snapshot run
  have hfile : snapshot.isFile "a.cpp" = true := isFile_of_read (Snapshot.read_ofFile _)
  have hfiles : ∀ file ∈ ["a.cpp", "a.cpp"], snapshot.isFile file = true := by
    simp only [List.forall_mem_cons, hfile, List.not_mem_nil, false_implies, implies_true, and_self]
  have hplan : plan {} snapshot ["a.cpp", "a.cpp"] = .ok ["a.cpp", "a.cpp"] :=
    plan_of_isFile (fun _ hpattern => absurd hpattern List.not_mem_nil) nofun hfiles
  have htogether := (check_of_single_runs (.human .plain) snapshot).2.2 {} false _ _ hplan
    (by decide) hfiles
  have hstdout := htogether.stdout_eq
  have hcode := htogether.exitCode_eq
  simp only [List.map_cons, List.map_nil, String.join_cons, String.join_nil,
    String.append_empty] at hstdout
  simp only [List.map_cons, List.map_nil, List.max?_cons, List.max?_nil, Option.elim_some,
    Option.elim_none, Nat.max_self, Option.some_inj] at hcode
  exact ⟨hplan, hfile, ⟨.ofOutcomes _, hstdout⟩, hcode.symm⟩

end Run

end NamingCheck
