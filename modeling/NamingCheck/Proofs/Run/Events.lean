import NamingCheck.Proofs.Run.FatalErrors
import NamingCheck.Proofs.Run.Refusal
import NamingCheck.Proofs.Run.Workers

/-!
# What is logged about the files of a run

A report, together with the file it speaks of, tells what has to be logged about this file. One file
is logged just as its report demands, and a failure leaves nothing to log. For any number of files
the log is then a rearrangement of what their reports demand: in the order of the files where one is
checked after the other, and where workers share the files in the order in which these are taken,
because what is logged and what is still to be logged always add up to the same.
-/

namespace NamingCheck

open OrderedTree (preorder preorder_eq)

theorem Entity.count_eq_length_preorder (entity : Entity) :
    entity.count = (preorder entity).length := by
  rw [count_eq, preorder_eq, List.length_cons, length_flatMap_eq_total, Nat.add_comm]
  apply congrArg (· + 1)
  apply total_congr
  intro child hchild
  exact count_eq_length_preorder child
termination_by OrderedTree.weight entity
decreasing_by exact OrderedTree.weight_lt_of_mem_children ‹_›

/-- The flags of all trees in the file system can be trusted. -/
def Snapshot.HasFaithfulFlags (snapshot : Snapshot) : Prop :=
  ∀ path content, snapshot.read path = .ok content → content.tree.HasFaithfulFlags

/-! ### What has to be logged -/

namespace Event

def isSyntaxRecovered : Event → Bool
  | syntaxRecovered .. => true
  | _ => false

def isParsed : Event → Bool
  | parsed .. => true
  | _ => false

/-- The source file that an event tells of. -/
def source? : Event → Option String
  | syntaxRecovered file _ => some file
  | parsed file _ => some file
  | _ => none

variable {event : Event}

theorem isSyntaxRecovered_of_source?_eq_none (hsource : event.source? = none) :
    event.isSyntaxRecovered = false := by
  cases event with
  | syntaxRecovered file line => cases hsource
  | _ => rfl

theorem isParsed_of_source?_eq_none (hsource : event.source? = none) :
    event.isParsed = false := by
  cases event with
  | parsed file entities => cases hsource
  | _ => rfl

theorem filter_eq_nil {kind : Event → Bool}
    (hkind : ∀ {event : Event}, event.source? = none → kind event = false) {events : List Event}
    (hsource : ∀ event ∈ events, event.source? = none) : events.filter kind = [] := by
  apply List.filter_eq_nil_iff.2
  intro event hevent
  rw [hkind (hsource event hevent)]
  exact Bool.false_ne_true

end Event

namespace Report

variable (snapshot : Snapshot) (report : Report)

/-- A warning with the line of the first fault, if the file on which the report speaks has any. -/
def dueWarning? : Option Event :=
  match snapshot.read report.file with
  | .error _ => none
  | .ok content =>
      ((preorder content.tree).find? (·.isFaulty)).map fun fault =>
        .syntaxRecovered report.file fault.line

/-- A notice with the number of entities in the file. -/
def dueNotice? : Option Event :=
  match snapshot.read report.file with
  | .error _ => none
  | .ok content =>
      some <| .parsed report.file
        (preorder (Lowering.fileEntity content.bytes report.file content.tree)).length

end Report

/-- The log tells of the reports what there is to tell, and of no other file anything. -/
structure Summary.ToldBy (snapshot : Snapshot) (summary : Summary) (log : List Event) : Prop where
  read : ∀ report ∈ summary.reports, ∃ content, snapshot.read report.file = .ok content
  warnings : (log.filter (·.isSyntaxRecovered)).Perm
    (summary.reports.filterMap (Report.dueWarning? snapshot))
  notices : (log.filter (·.isParsed)).Perm (summary.reports.filterMap (Report.dueNotice? snapshot))
  failures_silent : ∀ failure ∈ summary.failures, ∀ event ∈ log,
    event.source? ≠ some failure.file

namespace Summary

variable {snapshot : Snapshot} {summary : Summary} {log : List Event}

theorem ToldBy.perm (htold : summary.ToldBy snapshot log) {other : List Event}
    (hperm : other.Perm log) : summary.ToldBy snapshot other where
  read := htold.read
  warnings := (hperm.filter _).trans htold.warnings
  notices := (hperm.filter _).trans htold.notices
  failures_silent failure hfailure event hevent :=
    htold.failures_silent failure hfailure event (hperm.mem_iff.1 hevent)

/-- Events that are not about source files may stand before. -/
theorem ToldBy.append (htold : summary.ToldBy snapshot log) {before : List Event}
    (hbefore : ∀ event ∈ before, event.source? = none) :
    summary.ToldBy snapshot (before ++ log) := by
  refine ⟨htold.read, ?_, ?_, ?_⟩
  · rw [List.filter_append, Event.filter_eq_nil Event.isSyntaxRecovered_of_source?_eq_none hbefore]
    exact htold.warnings
  · rw [List.filter_append, Event.filter_eq_nil Event.isParsed_of_source?_eq_none hbefore]
    exact htold.notices
  · intro failure hfailure event hevent
    rcases List.mem_append.1 hevent with hearly | hlate
    · rw [hbefore event hearly]
      nofun
    · exact htold.failures_silent failure hfailure event hlate

end Summary

/-! ### One file -/

/-- Of one kind of events, just what is due to a report on a file is logged when the file has been
read. -/
def Event.LoggedAsDue (snapshot : Snapshot) (kind : Event → Bool)
    (due? : Report → Option Event) : Prop :=
  ∀ (path : String) (content : SourceFile) (report : Report), snapshot.read path = .ok content →
    report.file = path →
    (LoadedFile.events path <| .ok
      { root := Lowering.fileEntity content.bytes path content.tree
        errorLine := content.tree.errorLine? }).filter kind = (due? report).toList

theorem Event.loggedAsDue_warning {snapshot : Snapshot} (hflags : snapshot.HasFaithfulFlags) :
    LoggedAsDue snapshot isSyntaxRecovered (Report.dueWarning? snapshot) := by
  intro path content report hread hfile
  have hdue : report.dueWarning? snapshot =
      content.tree.errorLine?.map (.syntaxRecovered path) := by
    rw [Report.dueWarning?, hfile, hread,
      SyntaxNode.errorLine?_eq_find? (hflags path content hread).flagsAllFaults, Option.map_map]
    rfl
  rw [hdue, LoadedFile.events]
  cases content.tree.errorLine? <;> rfl

theorem Event.loggedAsDue_notice (snapshot : Snapshot) :
    LoggedAsDue snapshot isParsed (Report.dueNotice? snapshot) := by
  intro path content report hread hfile
  have hdue : report.dueNotice? snapshot =
      some (.parsed path (Lowering.fileEntity content.bytes path content.tree).count) := by
    rw [Report.dueNotice?, hfile, hread, Entity.count_eq_length_preorder]
  rw [hdue, LoadedFile.events]
  cases content.tree.errorLine? <;> rfl

namespace CheckedFile

variable {snapshot : Snapshot} (options : CheckOptions) (render : Verdict → String)

theorem filter_events_ofPath {kind : Event → Bool} {due? : Report → Option Event}
    (hdue : Event.LoggedAsDue snapshot kind due?) (path : String) :
    let outcome := ofPath options snapshot render path
    outcome.events.filter kind = (outcome.report?.bind due?).toList := by
  intro outcome
  rw [report?, ofPath_result, ofPath_events]
  cases hload : LoadedFile.load snapshot path options.fatalErrors with
  | error error => rfl
  | ok parsed =>
      obtain ⟨content, hread, -, rfl⟩ := (LoadedFile.load_eq_ok_iff ..).1 hload
      exact hdue path content (reportOn options.policy _) hread rfl

/-- Only a file that is loaded is told of. -/
theorem source?_of_mem_events {path : String} {event : Event}
    (hevent : event ∈ (ofPath options snapshot render path).events) :
    event.source? = some path ∧
      ∃ parsed, LoadedFile.load snapshot path options.fatalErrors = .ok parsed := by
  rw [ofPath_events] at hevent
  cases hload : LoadedFile.load snapshot path options.fatalErrors with
  | error error =>
      rw [hload] at hevent
      cases hevent
  | ok parsed =>
      rw [hload, LoadedFile.events, List.mem_append, List.mem_singleton, Option.mem_toList,
        Option.map_eq_some_iff] at hevent
      refine ⟨?_, parsed, rfl⟩
      rcases hevent with ⟨line, -, rfl⟩ | rfl <;> rfl

/-! ### Any number of files -/

/-- What holds of each file by itself holds of all of them in a row. -/
theorem filter_events_ofPaths {kind : Event → Bool} {due? : Report → Option Event}
    (hdue : Event.LoggedAsDue snapshot kind due?) (paths : List String) :
    let outcomes := ofPaths options snapshot render paths
    (outcomes.flatMap (·.events)).filter kind =
      (Summary.ofOutcomes outcomes).reports.filterMap due? := by
  intro outcomes
  calc (outcomes.flatMap (·.events)).filter kind
      = outcomes.flatMap fun outcome => outcome.events.filter kind := by
        rw [List.filter_flatMap]
    _ = outcomes.flatMap fun outcome => (outcome.report?.bind due?).toList := by
        simp only [outcomes, ofPaths, List.flatMap_map, filter_events_ofPath options render hdue]
    _ = outcomes.filterMap fun outcome => outcome.report?.bind due? :=
        (List.filterMap_eq_flatMap_toList _ _).symm
    _ = (outcomes.filterMap report?).filterMap due? := List.filterMap_filterMap.symm

theorem toldBy_ofPaths (hflags : snapshot.HasFaithfulFlags) (paths : List String) :
    let outcomes := ofPaths options snapshot render paths
    (Summary.ofOutcomes outcomes).ToldBy snapshot (outcomes.flatMap (·.events)) := by
  intro outcomes
  refine ⟨?_, ?_, ?_, ?_⟩
  · intro report hmem
    obtain ⟨path, -, parsed, hload, rfl⟩ := mem_reports_iff.1 hmem
    obtain ⟨content, hread, -, rfl⟩ := (LoadedFile.load_eq_ok_iff ..).1 hload
    exact ⟨content, hread⟩
  · rw [filter_events_ofPaths options render (Event.loggedAsDue_warning hflags) paths]
  · rw [filter_events_ofPaths options render (Event.loggedAsDue_notice snapshot) paths]
  · intro failed hmem event hevent hsource
    obtain ⟨path, -, error, hload, rfl⟩ := mem_failures_iff.1 hmem
    obtain ⟨outcome, houtcome, hlogged⟩ := List.mem_flatMap.1 hevent
    obtain ⟨told, -, rfl⟩ := List.mem_map.1 houtcome
    -- The same path cannot be loaded once and fail another time.
    obtain ⟨htold, parsed, hparsed⟩ := source?_of_mem_events options render hlogged
    have hsame : told = path := Option.some.inj (htold.symm.trans hsource)
    rw [hsame, hload] at hparsed
    cases hparsed

end CheckedFile

/-! ### A run -/

namespace Run

/-- What a run finds about its files. A run that is refused has none. -/
def found (formatter : Formatter) (settings : Settings) (snapshot : Snapshot)
    (paths : List String) (fatalErrors : Bool) : Summary :=
  match plan settings snapshot paths with
  | .error _ => .ofResults [] []
  | .ok files =>
      ((checkFiles formatter (optionsOf settings fatalErrors) snapshot files).run {}).1

variable {snapshot : Snapshot} (hflags : snapshot.HasFaithfulFlags) (formatter : Formatter)

include hflags

theorem checkFiles_toldBy (options : CheckOptions) (files : List String) (console : Console) :
    let run := (checkFiles formatter options snapshot files).run console
    ∃ log, run.2.events = console.events ++ log ∧ run.1.ToldBy snapshot log := by
  intro run
  let outcomes := CheckedFile.ofPaths options snapshot formatter.verdict files
  have hrun : run = (.ofOutcomes outcomes, console ++ shown formatter outcomes) := by
    change (checkFiles formatter options snapshot files).run console = _
    rw [checkFiles_eq_checkEach, writes_checkEach]
  rw [hrun]
  refine ⟨outcomes.flatMap (·.events), ?_,
    CheckedFile.toldBy_ofPaths options formatter.verdict hflags files⟩
  rw [Console.events_append, events_shown]

theorem check_toldBy (settings : Settings) (paths : List String) (fatalErrors json : Bool)
    (console : Console) :
    ∃ log,
      ((check formatter settings snapshot paths fatalErrors json).run console).2.events =
        console.events ++ log ∧
      (found formatter settings snapshot paths fatalErrors).ToldBy snapshot log := by
  have hlisting : ∀ event ∈ planEvents settings snapshot paths, event.source? = none := by
    intro event hevent
    obtain ⟨path, cause, rfl⟩ := directoryClosed_of_mem_planEvents hevent
    rfl
  rw [found]
  cases hplan : plan settings snapshot paths with
  | error refusal =>
      rw [writes_check_of_refused formatter fatalErrors json hplan]
      refine ⟨planEvents settings snapshot paths, rfl, ?_⟩
      have hnone : (Summary.ofResults [] []).ToldBy snapshot [] :=
        ⟨nofun, .nil, .nil, nofun⟩
      have htold := hnone.append hlisting
      rwa [List.append_nil] at htold
  | ok files =>
      let options := optionsOf settings fatalErrors
      let outcomes := CheckedFile.ofPaths options snapshot formatter.verdict files
      have hfound : ((checkFiles formatter options snapshot files).run {}).1 =
          .ofOutcomes outcomes := by
        rw [checkFiles_eq_checkEach, writes_checkEach]
      have htold : (Summary.ofOutcomes outcomes).ToldBy snapshot (outcomes.flatMap (·.events)) :=
        CheckedFile.toldBy_ofPaths options formatter.verdict hflags files
      have hbefore : ∀ event ∈ planEvents settings snapshot paths
          ++ [.checking files.length options.fatalErrors], event.source? = none := by
        rw [List.forall_mem_append, List.forall_mem_singleton]
        exact ⟨hlisting, rfl⟩
      dsimp only
      rw [hfound, writes_check hplan formatter fatalErrors json]
      refine ⟨_, ?_, htold.append hbefore⟩
      simp only [Console.events_append, events_shown, List.append_nil]
      rfl

end Run

/-! ### Workers -/

namespace Batch

variable {Memory : Type} {crew : Nat} {batch : Batch Memory} {state : State Memory crew}
  {log : List Event}

/-- What is logged about the path at a position. -/
def loggedAt (batch : Batch Memory) (index : Nat) : List Event :=
  (batch.paths[index]?.map fun path => (batch.alone path).events).getD []

/-- To go through the positions of a list is to go through its items. -/
theorem flatMap_range_length {α β : Type} (f : α → List β) (items : List α) :
    ((List.range items.length).flatMap fun index => (items[index]?.map f).getD []) =
      items.flatMap f := by
  induction items with
  | nil => rfl
  | cons first rest ih =>
      rw [List.length_cons, List.range_succ_eq_map, List.flatMap_cons, List.flatMap_map,
        List.flatMap_cons, ← ih]
      rfl

theorem logged_eq (hparser : batch.parser.Reproduces batch.snapshot) (worker : Worker Memory)
    (path : String) : batch.logged worker path = (batch.alone path).events := by
  rw [logged, Parser.load_fst hparser, alone, CheckedFile.ofPath_events]

theorem Logs.reaches (hlogs : batch.Logs state log) : batch.Reaches state := by
  induction hlogs with
  | start => exact .refl
  | take _ hidle hleft hpath ih => exact ih.tail (.take hidle hleft hpath)
  | proceed _ hjob hprogress ih => exact ih.tail (.proceed hjob hprogress)
  | finish _ hjob hend ih => exact ih.tail (.finish hjob hend)

theorem Reaches.exists_logs (hreaches : batch.Reaches state) : ∃ log, batch.Logs state log := by
  induction hreaches with
  | refl => exact ⟨[], .start⟩
  | tail _ hstep ih =>
      obtain ⟨log, hlogs⟩ := ih
      cases hstep with
      | take hidle hleft hpath => exact ⟨_, hlogs.take hidle hleft hpath⟩
      | proceed hjob hprogress => exact ⟨_, hlogs.proceed hjob hprogress⟩
      | finish hjob hend => exact ⟨_, hlogs.finish hjob hend⟩

/-- Along the run: what has been logged, and what there will be to log about the paths that are
left, are together what there is to log about all paths. -/
theorem Logs.perm (hparser : batch.parser.Reproduces batch.snapshot)
    (hlogs : batch.Logs state log) :
    (log ++ state.left.flatMap batch.loggedAt).Perm
      ((List.range batch.paths.length).flatMap batch.loggedAt) := by
  induction hlogs with
  | start => exact .refl _
  | @take state log who index path _ _ hleft hpath ih =>
      have htaken : batch.logged (state.workers who) path = batch.loggedAt index := by
        rw [logged_eq hparser, loggedAt, hpath]
        rfl
      refine .trans ?_ ih
      rw [htaken, List.append_assoc]
      apply List.Perm.append_left
      exact ((List.perm_cons_erase hleft).flatMap_right batch.loggedAt).symm
  | proceed _ _ _ ih => exact ih
  | finish _ _ _ ih => exact ih

theorem Logs.perm_of_finished (hparser : batch.parser.Reproduces batch.snapshot)
    (hlogs : batch.Logs state log) (hfinished : state.Finished) :
    log.Perm ((CheckedFile.ofPaths batch.options batch.snapshot batch.render batch.paths).flatMap
      (·.events)) := by
  have hperm := hlogs.perm hparser
  rw [hfinished.1, List.flatMap_nil, List.append_nil] at hperm
  rw [CheckedFile.ofPaths, List.flatMap_map]
  exact hperm.trans (.of_eq (flatMap_range_length _ batch.paths))

theorem Logs.outcomes_eq (hparser : batch.parser.Reproduces batch.snapshot)
    (hlogs : batch.Logs state log) (hfinished : state.Finished) :
    state.outcomes.filterMap id =
      CheckedFile.ofPaths batch.options batch.snapshot batch.render batch.paths := by
  rw [(hlogs.reaches.sound hparser).outcomes_eq hfinished, List.filterMap_map]
  exact List.filterMap_some

theorem Logs.toldBy (hflags : batch.snapshot.HasFaithfulFlags)
    (hparser : batch.parser.Reproduces batch.snapshot) (hlogs : batch.Logs state log)
    (hfinished : state.Finished) :
    (Summary.ofOutcomes (state.outcomes.filterMap id)).ToldBy batch.snapshot log := by
  rw [hlogs.outcomes_eq hparser hfinished]
  exact (CheckedFile.toldBy_ofPaths batch.options batch.render hflags batch.paths).perm
    (hlogs.perm_of_finished hparser hfinished)

end Batch

namespace Run

/-- However the files are checked, the log holds one warning for each report on a tree with a fault,
with the line of the first, one notice of the entities for each report, and nothing about any other
file. -/
theorem toldBy_of_runs {snapshot : Snapshot} (hflags : snapshot.HasFaithfulFlags) :
    (∀ (formatter : Formatter) (settings : Settings) (paths : List String)
      (fatalErrors json : Bool) (console : Console), ∃ log,
        ((check formatter settings snapshot paths fatalErrors json).run console).2.events =
          console.events ++ log ∧
        (found formatter settings snapshot paths fatalErrors).ToldBy snapshot log) ∧
    (∀ (formatter : Formatter) (options : CheckOptions) (files : List String) (console : Console),
      let run := (checkFiles formatter options snapshot files).run console
      ∃ log, run.2.events = console.events ++ log ∧ run.1.ToldBy snapshot log) ∧
    ∀ (Memory : Type) (batch : Batch Memory) (crew : Nat), batch.snapshot = snapshot →
      batch.parser.Reproduces snapshot →
      (0 < crew → ∃ (state : Batch.State Memory crew) (log : List Event),
        batch.Logs state log ∧ state.Finished) ∧
      ∀ (state : Batch.State Memory crew) (log : List Event), batch.Logs state log →
        state.Finished →
        (Summary.ofOutcomes (state.outcomes.filterMap id)).ToldBy snapshot log := by
  refine ⟨?_, ?_, ?_⟩
  · intro formatter settings paths fatalErrors json console
    exact check_toldBy hflags formatter settings paths fatalErrors json console
  · intro formatter options files console
    exact checkFiles_toldBy hflags formatter options files console
  · rintro Memory batch crew rfl hparser
    refine ⟨fun hcrew => ?_, fun state log hlogs hfinished => ?_⟩
    · obtain ⟨state, hreaches, hfinished⟩ := batch.exists_finished hcrew hparser
      obtain ⟨log, hlogs⟩ := hreaches.exists_logs
      exact ⟨state, log, hlogs, hfinished⟩
    · exact hlogs.toldBy hflags hparser hfinished

def brokenSnapshot : Snapshot := .ofFile "a.cpp" ⟨drawSource, CheckedFile.brokenTree⟩

theorem dueWarnings_broken {options : CheckOptions} (hmild : options.fatalErrors = false)
    (render : Verdict → String) (times : Nat) :
    (Summary.ofOutcomes (CheckedFile.ofPaths options brokenSnapshot render
      (.replicate times "a.cpp"))).reports.filterMap (Report.dueWarning? brokenSnapshot) =
        .replicate times (.syntaxRecovered "a.cpp" 3) := by
  have hread : brokenSnapshot.read "a.cpp" = .ok ⟨drawSource, CheckedFile.brokenTree⟩ :=
    Snapshot.read_ofFile _
  obtain ⟨report, hreport, hfile⟩ : ∃ report,
      (CheckedFile.ofPath options brokenSnapshot render "a.cpp").report? = some report ∧
        report.file = "a.cpp" := by
    have hload : LoadedFile.load brokenSnapshot "a.cpp" options.fatalErrors = _ :=
      (LoadedFile.load_eq_ok_iff ..).2 ⟨_, hread, by rw [hmild]; nofun, rfl⟩
    rw [CheckedFile.report?, CheckedFile.ofPath_result, hload]
    exact ⟨_, rfl, rfl⟩
  have hdue : report.dueWarning? brokenSnapshot = some (.syntaxRecovered "a.cpp" 3) := by
    rw [Report.dueWarning?, hfile, hread]
    decide +kernel
  change (List.filterMap _ (List.map _ _)).filterMap _ = _
  rw [List.map_replicate, List.filterMap_replicate_of_some hreport,
    List.filterMap_replicate_of_some hdue]

/-- Twice a file whose third line cannot be parsed. -/
def brokenBatch : Batch Nat where
  parser := { fresh := 0, parse := fun memory _ => (CheckedFile.brokenTree, memory + 1) }
  options := ⟨.standard, false⟩
  snapshot := brokenSnapshot
  render := Verdict.name
  paths := .replicate 2 "a.cpp"

theorem toldBy_of_runs_broken :
    brokenSnapshot.HasFaithfulFlags ∧
      ((check .json {} brokenSnapshot ["a.cpp"] false true).run {}).2.events.filter
        (·.isSyntaxRecovered) = [.syntaxRecovered "a.cpp" 3] ∧
      ∃ (state : Batch.State Nat 2) (log : List Event), brokenBatch.Logs state log ∧
        state.Finished ∧
          log.filter (·.isSyntaxRecovered) = .replicate 2 (.syntaxRecovered "a.cpp" 3) := by
  have hread : brokenSnapshot.read "a.cpp" = .ok ⟨drawSource, CheckedFile.brokenTree⟩ :=
    Snapshot.read_ofFile _
  have hflags : brokenSnapshot.HasFaithfulFlags := by
    intro path content hcontent
    cases Snapshot.eq_of_read_ofFile hcontent
    unfold SyntaxNode.HasFaithfulFlags
    decide +kernel
  have hparser : brokenBatch.parser.Reproduces brokenSnapshot := by
    intro memory path content hcontent
    cases Snapshot.eq_of_read_ofFile hcontent
    rfl
  have hplan : plan {} brokenSnapshot ["a.cpp"] = .ok ["a.cpp"] :=
    plan_of_isFile (fun _ hpattern => absurd hpattern List.not_mem_nil) nofun
      (List.forall_mem_singleton.2 (isFile_of_read hread))
  obtain ⟨hcheck, -, hworkers⟩ := toldBy_of_runs hflags
  refine ⟨hflags, ?_, ?_⟩
  · obtain ⟨log, hlog, htold⟩ := hcheck .json {} ["a.cpp"] false true {}
    have hwarnings := htold.warnings
    rw [found, hplan] at hwarnings
    dsimp only at hwarnings
    rw [checkFiles_eq_checkEach, writes_checkEach] at hwarnings
    rw [hlog]
    exact List.perm_singleton.1 (hwarnings.trans (.of_eq (dueWarnings_broken rfl _ 1)))
  · obtain ⟨hends, htold⟩ := hworkers Nat brokenBatch 2 rfl hparser
    obtain ⟨state, log, hlogs, hfinished⟩ := hends (by decide)
    have hwarnings := (htold state log hlogs hfinished).warnings
    rw [hlogs.outcomes_eq hparser hfinished] at hwarnings
    refine ⟨state, log, hlogs, hfinished, ?_⟩
    exact List.perm_replicate.1 (hwarnings.trans (.of_eq (dueWarnings_broken rfl _ 2)))

end Run

end NamingCheck
