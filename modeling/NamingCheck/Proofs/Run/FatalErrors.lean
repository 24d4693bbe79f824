import NamingCheck.Proofs.Run.ExitCode

/-!
# Fatal errors

Making errors fatal only takes files out of what is reported: the file with a fault loses its report
and becomes a failure at the line of the fault, every other file keeps its outcome.
-/

namespace NamingCheck

open OrderedTree (preorder)

namespace LoadedFile

theorem load_of_unreadable {snapshot : Snapshot} {path : String} {cause : AccessError}
    (hread : snapshot.read path = .error cause) (fatalErrors : Bool) :
    load snapshot path fatalErrors = .error (.unreadable path cause) := by
  rw [load, hread]

section

variable {snapshot : Snapshot} {path : String} {content : SourceFile}

theorem load_of_errorLine?_eq_none (hread : snapshot.read path = .ok content)
    (hclean : content.tree.errorLine? = none) :
    load snapshot path true = load snapshot path false := by
  rw [load, load, hread]
  simp only [ofSource, hclean]

theorem load_of_errorLine?_eq_some {line : UInt32} (hread : snapshot.read path = .ok content)
    (hline : content.tree.errorLine? = some line) :
    load snapshot path true = .error (.syntaxError path line) ∧
      ∃ parsed, load snapshot path false = .ok parsed ∧ parsed.errorLine = some line := by
  rw [load, load, hread]
  simp only [ofSource, hline, true_and]
  exact ⟨_, rfl, rfl⟩

end

/-- A file is loaded as before or not at all. -/
theorem load_fatal (snapshot : Snapshot) (path : String) :
    load snapshot path true = load snapshot path false ∨
      ∃ line, load snapshot path true = .error (.syntaxError path line) := by
  cases hread : snapshot.read path with
  | error cause =>
      rw [load_of_unreadable hread, load_of_unreadable hread]
      exact Or.inl rfl
  | ok content =>
      cases hline : content.tree.errorLine? with
      | none => exact Or.inl (load_of_errorLine?_eq_none hread hline)
      | some line => exact Or.inr ⟨line, (load_of_errorLine?_eq_some hread hline).1⟩

end LoadedFile

namespace CheckedFile

/-- What becomes of the outcome of a file when errors are made fatal. The line of the failure is the
line that the other outcome was loaded with. -/
structure Hardens (snapshot : Snapshot) (path : String) (mild severe : CheckedFile) : Prop where
  of_unreadable : ∀ cause, snapshot.read path = .error cause → severe = mild
  of_clean : ∀ content, snapshot.read path = .ok content →
    (∀ node ∈ preorder content.tree, node.isFaulty = false) → severe = mild
  of_faulty : ∀ content, snapshot.read path = .ok content →
    (∃ fault ∈ preorder content.tree, fault.isFaulty = true) →
    ∃ parsed report line, LoadedFile.load snapshot path false = .ok parsed ∧
      parsed.errorLine = some line ∧ mild.result = .ok report ∧
      severe.result = .error (.syntaxError path line) ∧ severe.trace = ""

section

variable (policy : Policy) (snapshot : Snapshot) (render : Verdict → String)

theorem ofPath_hardens {path : String}
    (hflags : ∀ content, snapshot.read path = .ok content → content.tree.HasFaithfulFlags) :
    Hardens snapshot path (ofPath ⟨policy, false⟩ snapshot render path)
      (ofPath ⟨policy, true⟩ snapshot render path) where
  of_unreadable cause hread := by
    refine ofPath_eq_of_load_eq rfl ?_
    rw [LoadedFile.load_of_unreadable hread, LoadedFile.load_of_unreadable hread]
  of_clean content hread hclean := by
    have hline := (SyntaxNode.errorLine?_eq_none_iff (hflags content hread).flagsAllFaults).2 hclean
    exact ofPath_eq_of_load_eq rfl (LoadedFile.load_of_errorLine?_eq_none hread hline)
  of_faulty content hread hfaulty := by
    obtain ⟨line, hline⟩ :=
      (SyntaxNode.exists_errorLine?_iff (hflags content hread).flagsAllFaults).2 hfaulty
    obtain ⟨hfatal, parsed, hload, hparsed⟩ :=
      LoadedFile.load_of_errorLine?_eq_some hread hline
    refine ⟨parsed, reportOn policy parsed, line, hload, hparsed, ?_, ?_, ?_⟩
    · rw [ofPath_result, hload]
      rfl
    · rw [ofPath_result, hfatal]
      rfl
    · rw [ofPath_eq, hfatal]

/-- A report is kept as it is or lost. -/
theorem report?_fatal (path : String) :
    (ofPath ⟨policy, true⟩ snapshot render path).report? = none ∨
      (ofPath ⟨policy, true⟩ snapshot render path).report? =
        (ofPath ⟨policy, false⟩ snapshot render path).report? := by
  rcases LoadedFile.load_fatal snapshot path with hload | ⟨line, hload⟩
  · exact Or.inr (congrArg report? (ofPath_eq_of_load_eq rfl hload))
  · refine Or.inl ?_
    rw [report?, ofPath_result, hload]
    rfl

/-- Leaving out some of what is picked leaves a part of it, in the same order. -/
theorem filterMap_sublist_filterMap {α β : Type} {fewer more : α → Option β}
    (hfewer : ∀ item, fewer item = none ∨ fewer item = more item) (items : List α) :
    (items.filterMap fewer).Sublist (items.filterMap more) := by
  induction items with
  | nil => exact .slnil
  | cons item rest ih =>
      rcases hfewer item with hnone | hsame
      · rw [List.filterMap_cons_none hnone, List.filterMap_cons]
        cases more item with
        | none => exact ih
        | some picked => exact ih.cons picked
      · rw [List.filterMap_cons, List.filterMap_cons, hsame]
        cases more item with
        | none => exact ih
        | some picked => exact ih.cons_cons picked

theorem reports_fatal_sublist (paths : List String) :
    (Summary.ofOutcomes (ofPaths ⟨policy, true⟩ snapshot render paths)).reports.Sublist
      (Summary.ofOutcomes (ofPaths ⟨policy, false⟩ snapshot render paths)).reports := by
  change ((paths.map _).filterMap _).Sublist ((paths.map _).filterMap _)
  rw [List.filterMap_map, List.filterMap_map]
  exact filterMap_sublist_filterMap (report?_fatal policy snapshot render) paths

theorem exitCode_fatal (paths : List String) :
    let code (fatalErrors : Bool) :=
      Run.exitCode (.ofOutcomes (ofPaths ⟨policy, fatalErrors⟩ snapshot render paths))
    code true = code false ∨ (code true).number = 2 := by
  intro code
  by_cases hsame : ∀ path ∈ paths,
      LoadedFile.load snapshot path true = LoadedFile.load snapshot path false
  · refine Or.inl (congrArg (Run.exitCode ∘ Summary.ofOutcomes) ?_)
    exact List.map_congr_left fun path hpath => ofPath_eq_of_load_eq rfl (hsame path hpath)
  · simp only [not_forall] at hsame
    obtain ⟨path, hpath, hchanged⟩ := hsame
    obtain ⟨line, hload⟩ := (LoadedFile.load_fatal snapshot path).resolve_left hchanged
    refine Or.inr ((Run.exitCode_number _).2.2.2 ?_)
    rw [Summary.failures_isEmpty_ofOutcomes_iff]
    intro hreports
    obtain ⟨report, hreport⟩ := hreports _ (List.mem_map_of_mem hpath)
    rw [ofPath_result, hload] at hreport
    cases hreport

end

end CheckedFile

namespace Run

/-- A run that does not start refuses with or without fatal errors. -/
theorem check_fatal (formatter : Formatter) (settings : Settings) (snapshot : Snapshot)
    (paths : List String) (json : Bool) :
    let code (fatalErrors : Bool) :=
      ((check formatter settings snapshot paths fatalErrors json).run {}).1
    code true = code false ∨ (code true).number = 2 := by
  intro code
  have hcode (fatalErrors : Bool) : code fatalErrors = _ :=
    check_exitCode formatter settings snapshot paths fatalErrors json {}
  rw [hcode true, hcode false]
  cases plan settings snapshot paths with
  | error refusal => exact Or.inl rfl
  | ok files =>
      dsimp only
      cases settings.fatalErrors with
      | true => exact Or.inl rfl
      | false => exact CheckedFile.exitCode_fatal settings.policy snapshot formatter.verdict files

end Run

namespace CheckedFile

/-- Fatal errors change the outcomes of the faulty files only, and all of these into failures. So
they leave a part of the reports, in their order, and the exit code changes to 2 if at all. -/
theorem ofPaths_hardens (policy : Policy) (snapshot : Snapshot) (render : Verdict → String)
    (paths : List String)
    (hflags : ∀ path ∈ paths, ∀ content, snapshot.read path = .ok content →
      content.tree.HasFaithfulFlags) :
    let outcomes (fatalErrors : Bool) := ofPaths ⟨policy, fatalErrors⟩ snapshot render paths
    let summary (fatalErrors : Bool) := Summary.ofOutcomes (outcomes fatalErrors)
    (∀ (index : Nat) (path : String), paths[index]? = some path →
      ∃ mild severe, (outcomes false)[index]? = some mild ∧ (outcomes true)[index]? = some severe ∧
        Hardens snapshot path mild severe) ∧
      (summary true).reports.Sublist (summary false).reports ∧
      (Run.exitCode (summary true) = Run.exitCode (summary false) ∨
        (Run.exitCode (summary true)).number = 2) ∧
      ∀ (formatter : Formatter) (settings : Settings) (arguments : List String) (json : Bool),
        let code (fatalErrors : Bool) :=
          ((Run.check formatter settings snapshot arguments fatalErrors json).run {}).1
        code true = code false ∨ (code true).number = 2 := by
  intro outcomes summary
  refine ⟨fun index path hpath => ?_, reports_fatal_sublist policy snapshot render paths,
    exitCode_fatal policy snapshot render paths, fun formatter settings arguments json =>
      Run.check_fatal formatter settings snapshot arguments json⟩
  have houtcome (fatalErrors : Bool) : (outcomes fatalErrors)[index]? =
      some (ofPath ⟨policy, fatalErrors⟩ snapshot render path) := by
    change (paths.map _)[index]? = _
    rw [List.getElem?_map, hpath]
    rfl
  exact ⟨_, _, houtcome false, houtcome true,
    ofPath_hardens policy snapshot render (hflags path (List.mem_of_getElem? hpath))⟩

/-- `void draw() {}`, and in the third line something that cannot be parsed. -/
def brokenTree : SyntaxNode :=
  { Run.drawTree with
    hasError := true
    children :=
      [Run.drawDefinition,
        { SyntaxNode.blank with
          kind := .other "ERROR"
          row := 2
          isError := true
          hasError := true }] }

theorem ofPaths_hardens_broken :
    let snapshot := Snapshot.ofFile "a.cpp" ⟨Run.drawSource, brokenTree⟩
    let outcomes (fatalErrors : Bool) :=
      ofPaths ⟨.standard, fatalErrors⟩ snapshot Verdict.name ["b.cpp", "a.cpp"]
    ∃ mild severe, (outcomes false)[1]? = some mild ∧ (outcomes true)[1]? = some severe ∧
      mild.result.isOk = true ∧ severe.result = .error (.syntaxError "a.cpp" 3) ∧
      severe.trace = "" := by
  intro snapshot outcomes
  have hbroken : brokenTree.HasFaithfulFlags := by
    unfold SyntaxNode.HasFaithfulFlags
    decide +kernel
  have hflags : ∀ path ∈ ["b.cpp", "a.cpp"], ∀ content, snapshot.read path = .ok content →
      content.tree.HasFaithfulFlags := by
    intro path _ content hread
    cases Snapshot.eq_of_read_ofFile hread
    exact hbroken
  have hread : snapshot.read "a.cpp" = .ok ⟨Run.drawSource, brokenTree⟩ :=
    Snapshot.read_ofFile _
  have hline : brokenTree.errorLine? = some 3 := by
    rw [SyntaxNode.errorLine?_eq_find? hbroken.flagsAllFaults]
    decide +kernel
  obtain ⟨mild, severe, hmild, hsevere, hhardens⟩ :=
    (ofPaths_hardens .standard snapshot Verdict.name ["b.cpp", "a.cpp"] hflags).1 1 "a.cpp" rfl
  obtain ⟨parsed, report, line, hload, hparsed, hreport, hfailure, htrace⟩ :=
    hhardens.of_faulty _ hread (by decide +kernel)
  obtain ⟨content, hcontent, -, rfl⟩ := (LoadedFile.load_eq_ok_iff ..).1 hload
  cases Snapshot.eq_of_read_ofFile hcontent
  obtain rfl : line = 3 := Option.some.inj (hparsed.symm.trans hline)
  exact ⟨mild, severe, hmild, hsevere, by rw [hreport]; rfl, hfailure, htrace⟩

end CheckedFile

end NamingCheck
