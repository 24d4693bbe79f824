import NamingCheck.Proofs.Run.Plan
import NamingCheck.Proofs.Verdict.Report
import NamingCheck.Run.CheckedFile

/-!
# The outcome of one file

A file that is loaded gets a report, and the trace holds the verdicts of this report. Of the file
system only the one file matters.
-/

namespace NamingCheck

open EntityTree (OwesVerdict)
open OrderedTree (preorder)

namespace LoadedFile

/-- A file is loaded exactly if it can be read and, where errors are fatal, has none. -/
theorem load_eq_ok_iff (snapshot : Snapshot) (path : String) (fatalErrors : Bool)
    (parsed : LoadedFile) :
    load snapshot path fatalErrors = .ok parsed ↔
      ∃ content, snapshot.read path = .ok content ∧
        (fatalErrors = true → content.tree.errorLine? = none) ∧
        parsed = { root := Lowering.fileEntity content.bytes path content.tree
                   errorLine := content.tree.errorLine? } := by
  rw [load]
  cases snapshot.read path with
  | error cause => simp
  | ok content =>
      simp only [Except.ok.injEq, exists_eq_left', ofSource]
      cases fatalErrors <;> cases content.tree.errorLine? <;> simp [eq_comm]

theorem load_congr {snapshot changed : Snapshot} {path : String}
    (hread : snapshot.read path = changed.read path) (fatalErrors : Bool) :
    load snapshot path fatalErrors = load changed path fatalErrors := by
  rw [load, load, hread]

end LoadedFile

namespace CheckedFile

def reportOn (policy : Policy) (parsed : LoadedFile) : Report :=
  (Report.empty parsed.root.name).extend (policy.verdicts parsed.root)

theorem run_forM_appendTrace (render : Verdict → String) (verdicts : List Verdict)
    (trace : String) :
    ((verdicts.forM (appendTrace render)).run trace).2 =
      trace ++ String.join (verdicts.map render) := by
  induction verdicts generalizing trace with
  | nil => exact (String.append_empty).symm
  | cons verdict rest ih =>
      have hstep : (((verdict :: rest).forM (appendTrace render)).run trace).2 =
          ((rest.forM (appendTrace render)).run (trace ++ render verdict)).2 := rfl
      rw [hstep, ih, List.map_cons, String.join_cons, String.append_assoc]

theorem ofPath_eq (options : CheckOptions) (snapshot : Snapshot) (render : Verdict → String)
    (path : String) :
    ofPath options snapshot render path =
      match LoadedFile.load snapshot path options.fatalErrors with
      | .error error =>
          { path, result := .error error, trace := ""
            events := LoadedFile.events path (.error error) }
      | .ok parsed =>
          { path, result := .ok (reportOn options.policy parsed)
            trace := String.join ((options.policy.verdicts parsed.root).map render)
            events := LoadedFile.events path (.ok parsed) } := by
  rw [ofPath]
  cases LoadedFile.load snapshot path options.fatalErrors with
  | error error => rfl
  | ok parsed =>
      have htrace := run_forM_appendTrace render (options.policy.verdicts parsed.root) ""
      rw [String.empty_append] at htrace
      simp only [Policy.check_eq, ← htrace]
      rfl

theorem ofPath_path (options : CheckOptions) (snapshot : Snapshot) (render : Verdict → String)
    (path : String) : (ofPath options snapshot render path).path = path := by
  rw [ofPath_eq]
  cases LoadedFile.load snapshot path options.fatalErrors <;> rfl

theorem ofPath_result (options : CheckOptions) (snapshot : Snapshot) (render : Verdict → String)
    (path : String) :
    (ofPath options snapshot render path).result =
      (LoadedFile.load snapshot path options.fatalErrors).map (reportOn options.policy) := by
  rw [ofPath_eq]
  cases LoadedFile.load snapshot path options.fatalErrors <;> rfl

/-- The verdicts of a report, rendered one after the other. An error leaves nothing to render. -/
def traceOf (render : Verdict → String) : Except FileError Report → String
  | .ok report => String.join (report.verdicts.map render)
  | .error _ => ""

theorem ofPath_trace (options : CheckOptions) (snapshot : Snapshot) (render : Verdict → String)
    (path : String) :
    (ofPath options snapshot render path).trace =
      traceOf render (ofPath options snapshot render path).result := by
  rw [ofPath_eq]
  cases LoadedFile.load snapshot path options.fatalErrors <;> rfl

theorem ofPath_events (options : CheckOptions) (snapshot : Snapshot) (render : Verdict → String)
    (path : String) :
    (ofPath options snapshot render path).events =
      LoadedFile.events path (LoadedFile.load snapshot path options.fatalErrors) := by
  rw [ofPath_eq]
  cases LoadedFile.load snapshot path options.fatalErrors <;> rfl

theorem mem_reports_iff {options : CheckOptions} {snapshot : Snapshot} {render : Verdict → String}
    {paths : List String} {report : Report} :
    report ∈ (Summary.ofOutcomes (ofPaths options snapshot render paths)).reports ↔
      ∃ path ∈ paths, ∃ parsed,
        LoadedFile.load snapshot path options.fatalErrors = .ok parsed ∧
          report = reportOn options.policy parsed := by
  change report ∈ ((paths.map _).filterMap _) ↔ _
  rw [List.filterMap_map, List.mem_filterMap]
  refine exists_congr fun path => and_congr_right fun _ => ?_
  rw [Function.comp_apply, report?, ofPath_result]
  cases LoadedFile.load snapshot path options.fatalErrors <;>
    simp [Except.map, Except.toOption, eq_comm]

theorem mem_failures_iff {options : CheckOptions} {snapshot : Snapshot}
    {render : Verdict → String} {paths : List String} {failed : Failure} :
    failed ∈ (Summary.ofOutcomes (ofPaths options snapshot render paths)).failures ↔
      ∃ path ∈ paths, ∃ error,
        LoadedFile.load snapshot path options.fatalErrors = .error error ∧
          failed = failure path error := by
  change failed ∈ ((paths.map _).filterMap _) ↔ _
  rw [List.filterMap_map, List.mem_filterMap]
  refine exists_congr fun path => and_congr_right fun _ => ?_
  rw [Function.comp_apply, failure?, ofPath_result, ofPath_path]
  cases LoadedFile.load snapshot path options.fatalErrors <;> simp [Except.map, eq_comm]

/-- Of the file system, and of whether errors are fatal, only what is loaded matters. -/
theorem ofPath_eq_of_load_eq {options changedOptions : CheckOptions} {snapshot changed : Snapshot}
    {render : Verdict → String} {path : String} (hpolicy : options.policy = changedOptions.policy)
    (hload : LoadedFile.load snapshot path options.fatalErrors =
      LoadedFile.load changed path changedOptions.fatalErrors) :
    ofPath options snapshot render path = ofPath changedOptions changed render path := by
  rw [ofPath, ofPath, hload, hpolicy]

theorem ofPath_congr {options : CheckOptions} {snapshot changed : Snapshot}
    {render : Verdict → String} {path : String}
    (hload : LoadedFile.load snapshot path options.fatalErrors =
      LoadedFile.load changed path options.fatalErrors) :
    ofPath options snapshot render path = ofPath options changed render path :=
  ofPath_eq_of_load_eq rfl hload

theorem exists_report_iff (options : CheckOptions) (snapshot : Snapshot)
    (render : Verdict → String) (path : String) :
    (∃ report, (ofPath options snapshot render path).result = .ok report) ↔
      ∃ content, snapshot.read path = .ok content ∧
        (options.fatalErrors = true → content.tree.errorLine? = none) := by
  simp only [ofPath_result, map_eq_ok_iff, LoadedFile.load_eq_ok_iff]
  constructor
  · rintro ⟨-, parsed, ⟨content, hread, hfatal, -⟩, -⟩
    exact ⟨content, hread, hfatal⟩
  · rintro ⟨content, hread, hfatal⟩
    exact ⟨_, _, ⟨content, hread, hfatal, rfl⟩, rfl⟩

theorem fileCompliant_reportOn_iff (policy : Policy) (parsed : LoadedFile) :
    (reportOn policy parsed).fileCompliant = true ↔
      ∀ entity ∈ preorder parsed.root, OwesVerdict entity → policy.Accepts entity.name := by
  rw [reportOn, Report.fileCompliant_extend_empty_iff, Policy.verdicts, List.forall_mem_map]
  refine forall_congr' fun entity => ?_
  rw [EntityTree.mem_judged_iff, and_imp]
  refine forall₂_congr fun _ _ => ?_
  change (policy.acceptingRule? entity.name).isSome = true ↔ _
  rw [Option.isSome_iff_ne_none, Ne, Policy.acceptingRule?_eq_none_iff, not_not]

/-- Where errors are not fatal, files that are lowered to the same entities get the same report. -/
theorem ofPath_result_congr {options : CheckOptions} {snapshot changed : Snapshot}
    {render : Verdict → String} {path : String} {content content' : SourceFile}
    (hfatal : options.fatalErrors = false) (hread : snapshot.read path = .ok content)
    (hread' : changed.read path = .ok content')
    (hentity : Lowering.fileEntity content.bytes path content.tree =
      Lowering.fileEntity content'.bytes path content'.tree) :
    (ofPath options snapshot render path).result = (ofPath options changed render path).result := by
  have hload (snapshot : Snapshot) (content : SourceFile)
      (hread : snapshot.read path = .ok content) :
      LoadedFile.load snapshot path options.fatalErrors =
        .ok { root := Lowering.fileEntity content.bytes path content.tree
              errorLine := content.tree.errorLine? } := by
    rw [LoadedFile.load_eq_ok_iff, hfatal]
    exact ⟨content, hread, nofun, rfl⟩
  rw [ofPath_result, ofPath_result, hload snapshot content hread, hload changed content' hread',
    hentity]
  rfl

end CheckedFile

/-- A file system of a single file in the working directory. -/
def Snapshot.ofFile (name : String) (content : SourceFile) : Snapshot where
  root := .directory [(name, .file content)]
  workingDirectory := []

/-- A single name, so that the way to it is one step. -/
def Path.IsPlain (path : String) : Prop :=
  Path.steps path = [path] ∧ path.toList.contains '\x00' = false ∧
    Snapshot.isTooLong path = false ∧ (path == "") = false ∧ Path.isAbsolute path = false ∧
    (path == "." || path == "..") = false ∧ path.utf8ByteSize ≤ Snapshot.maxNameBytes

instance (path : String) : Decidable (Path.IsPlain path) :=
  inferInstanceAs (Decidable (_ ∧ _))

theorem Snapshot.resolve_ofFile {path : String} (hplain : Path.IsPlain path) (name : String)
    (content : SourceFile) :
    (Snapshot.ofFile name content).resolve path =
      if name = path then .ok [path] else .error .notFound := by
  obtain ⟨hsteps, hnul, hshort, hsome, hrelative, hdots, hbytes⟩ := hplain
  rw [Bool.or_eq_false_iff] at hdots
  rw [resolve, hsteps, hnul, hshort, hsome, hrelative]
  by_cases hname : name = path <;>
    simp [ofFile, walkSteps, FileNode.at?, FileNode.entry?, FileNode.entries, FileNode.isDirectory,
      hname, hdots, hsome, hbytes]

theorem Snapshot.read_ofFile (content : SourceFile) :
    (Snapshot.ofFile "a.cpp" content).read "a.cpp" = .ok content := by
  have hplain : Path.IsPlain "a.cpp" := by
    decide +kernel
  exact read_of_resolve ((resolve_ofFile hplain "a.cpp" content).trans (if_pos rfl)) rfl rfl

theorem Snapshot.eq_of_at?_ofFile {name : String} {content found : SourceFile} :
    ∀ {location : List String},
      (Snapshot.ofFile name content).root.at? location = some (.file found) → found = content
  | [], hat => by cases hat
  | [first], hat => by
      obtain ⟨entry, hentry, hfile⟩ := Option.bind_eq_some_iff.1 hat
      cases hfile
      obtain ⟨⟨_, _⟩, hmem, rfl⟩ := Option.map_eq_some_iff.1 hentry
      cases List.mem_singleton.1 (List.mem_of_find?_eq_some hmem)
      rfl
  | first :: second :: rest, hat => by
      obtain ⟨entry, hentry, hbelow⟩ := Option.bind_eq_some_iff.1 hat
      obtain ⟨⟨_, _⟩, hmem, rfl⟩ := Option.map_eq_some_iff.1 hentry
      cases List.mem_singleton.1 (List.mem_of_find?_eq_some hmem)
      cases hbelow

theorem Snapshot.eq_of_read_ofFile {name path : String} {content found : SourceFile}
    (hread : (Snapshot.ofFile name content).read path = .ok found) : found = content := by
  obtain ⟨-, hnode⟩ := read_eq_ok_iff.1 hread
  simp only [nodeAt, bind, Except.bind] at hnode
  cases hresolve : (Snapshot.ofFile name content).resolve path with
  | error cause =>
      rw [hresolve] at hnode
      cases hnode
  | ok location =>
      rw [hresolve] at hnode
      cases hat : (Snapshot.ofFile name content).root.at? location with
      | none => simp only [hat, reduceCtorEq] at hnode
      | some node =>
          simp only [hat, Except.ok.injEq] at hnode
          rw [hnode] at hat
          exact eq_of_at?_ofFile hat

end NamingCheck
