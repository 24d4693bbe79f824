import NamingCheck.Proofs.Run.Writing
import NamingCheck.Proofs.Snapshot.Reparsed

/-!
# Runs that do not start

Before a run checks or prints anything, every pattern and every path is known to be good and there
is a file to check. If not, the first obstacle is named, and how far the run had come is not shown.
Patterns that can be read each by itself are still an obstacle if they make no set; then all of them
are named.
-/

namespace NamingCheck

namespace PatternSet

theorem compileOne_eq_error_iff {pattern : String} {error : PatternError} :
    compileOne pattern = .error error ↔
      ∃ fault, GlobPattern.parse .plain pattern = .error fault ∧
        error = .unread pattern fault := by
  rw [compileOne]
  cases GlobPattern.parse .plain pattern <;> simp [Except.mapError, eq_comm]

end PatternSet

namespace Settings

theorem exclusions_of_patternsRead {settings : Settings} (hread : settings.PatternsRead) :
    settings.exclusions =
      match PatternSet.fault? settings.readablePatterns.patterns with
      | some fault => .error (.unusable settings.ignorePatterns fault)
      | none => .ok settings.readablePatterns :=
  PatternSet.compile_of_allRead hread

/-- A pattern that cannot be read, after others that can. -/
theorem exclusions_of_unread {settings : Settings} {before after : List String} {pattern : String}
    {fault : GlobFault} (hpatterns : settings.ignorePatterns = before ++ pattern :: after)
    (hbefore : PatternSet.AllRead before)
    (hfault : GlobPattern.parse .plain pattern = .error fault) :
    settings.exclusions = .error (.unread pattern fault) := by
  have hmap : settings.ignorePatterns.mapM PatternSet.compileOne = .error (.unread pattern fault) :=
    (mapM_eq_error_iff _).2 ⟨before, pattern, after, hpatterns, hbefore,
      PatternSet.compileOne_eq_error_iff.2 ⟨fault, hfault, rfl⟩⟩
  rw [exclusions, PatternSet.compile, hmap]
  rfl

theorem patternsRead_or_exists_unread (settings : Settings) :
    settings.PatternsRead ∨
      ∃ before pattern after fault, settings.ignorePatterns = before ++ pattern :: after ∧
        PatternSet.AllRead before ∧ GlobPattern.parse .plain pattern = .error fault := by
  cases hmap : settings.ignorePatterns.mapM PatternSet.compileOne with
  | ok globs => exact Or.inl (forall_of_mapM_eq_ok hmap)
  | error error =>
      obtain ⟨before, pattern, after, hpatterns, hbefore, hbad⟩ := (mapM_eq_error_iff error).1 hmap
      obtain ⟨fault, hfault, -⟩ := PatternSet.compileOne_eq_error_iff.1 hbad
      exact Or.inr ⟨before, pattern, after, fault, hpatterns, hbefore, hfault⟩

end Settings

namespace Run

/-! ### What arguments stand for -/

/-- The files for which arguments stand, in the order of the arguments. A file stands for itself,
whatever its name, and no pattern is held against it. -/
inductive StandFor (snapshot : Snapshot) (exclude : PatternSet) : List String → List String → Prop
  | nil : StandFor snapshot exclude [] []
  | file {path : String} {rest files : List String} (hfile : snapshot.isFile path = true)
      (hrest : StandFor snapshot exclude rest files) :
      StandFor snapshot exclude (path :: rest) (path :: files)
  | directory {path : String} {rest files : List String}
      (hdirectory : snapshot.isDirectory path = true)
      (hrest : StandFor snapshot exclude rest files) :
      StandFor snapshot exclude (path :: rest)
        ((snapshot.sources path exclude).map (·.path) ++ files)

section

variable {settings : Settings} {snapshot : Snapshot} {exclude : PatternSet}
  {arguments paths files : List String} {refusal : RunRefusal}

theorem expandPath_eq_error_iff {path : String} :
    expandPath snapshot exclude path = .error refusal ↔
      snapshot.isDirectory path = false ∧ snapshot.isFile path = false ∧
        refusal = .missingPath path := by
  rw [expandPath]
  cases snapshot.isDirectory path with
  | true => simp
  | false =>
      cases snapshot.isFile path with
      | true => simp
      | false => exact ⟨fun hmissing => ⟨rfl, rfl, (Except.error.inj hmissing).symm⟩,
          fun hmissing => congrArg Except.error hmissing.2.2.symm⟩

theorem expandPaths_cons (path : String) (rest : List String) :
    expandPaths snapshot exclude (path :: rest) = (do
      let found ← expandPath snapshot exclude path
      let others ← expandPaths snapshot exclude rest
      return found ++ others) := by
  rw [expandPaths, expandPaths, List.mapM_cons]
  cases expandPath snapshot exclude path with
  | error refusal => rfl
  | ok found => cases rest.mapM (expandPath snapshot exclude) <;> rfl

theorem expandPaths_eq_ok_iff_standFor :
    expandPaths snapshot exclude arguments = .ok files ↔
      StandFor snapshot exclude arguments files := by
  constructor
  · induction arguments generalizing files with
    | nil =>
        rintro ⟨⟩
        exact .nil
    | cons path rest ih =>
        rw [expandPaths_cons, expandPath]
        cases hrest : expandPaths snapshot exclude rest with
        | error refusal => split_ifs <;> rintro ⟨⟩
        | ok others =>
            split_ifs with hdirectory hfile <;> rintro ⟨⟩
            · exact .directory hdirectory (ih hrest)
            · exact .file hfile (ih hrest)
  · intro hstand
    induction hstand with
    | nil => rfl
    | file hfile _ ih =>
        rw [expandPaths_cons, ih, expandPath, isDirectory_of_isFile hfile, hfile]
        rfl
    | directory hdirectory _ ih =>
        rw [expandPaths_cons, ih, expandPath, hdirectory]
        rfl

theorem expandPaths_eq_error_iff :
    expandPaths snapshot exclude arguments = .error refusal ↔
      ∃ before path after, arguments = before ++ path :: after ∧ PathsExist snapshot before ∧
        snapshot.isDirectory path = false ∧ snapshot.isFile path = false ∧
        refusal = .missingPath path := by
  have hmap : expandPaths snapshot exclude arguments = .error refusal ↔
      arguments.mapM (expandPath snapshot exclude) = .error refusal := by
    rw [expandPaths]
    cases arguments.mapM (expandPath snapshot exclude) <;> simp [Except.map]
  simp only [hmap, mapM_eq_error_iff, exists_expandPath_eq_ok_iff, expandPath_eq_error_iff]
  rfl

/-! ### Obstacles -/

/-- The first obstacle in the way of a run. Patterns come before paths, and both come in the order
in which they are given; but patterns that can all be read are in the way together. -/
inductive FirstObstacle (settings : Settings) (snapshot : Snapshot) (arguments : List String) :
    RunRefusal → Prop
  | unreadPattern {before after : List String} {pattern : String} {fault : GlobFault}
      (hpatterns : settings.ignorePatterns = before ++ pattern :: after)
      (hbefore : PatternSet.AllRead before)
      (hfault : GlobPattern.parse .plain pattern = .error fault) :
      FirstObstacle settings snapshot arguments (.badPattern (.unread pattern fault))
  | unusablePatterns {fault : GlobSetFault} (hread : settings.PatternsRead)
      (hfault : PatternSet.fault? settings.readablePatterns.patterns = some fault) :
      FirstObstacle settings snapshot arguments
        (.badPattern (.unusable settings.ignorePatterns fault))
  | missingPath {before after : List String} {path : String} (hcompile : settings.PatternsCompile)
      (harguments : arguments = before ++ path :: after) (hbefore : PathsExist snapshot before)
      (hdirectory : snapshot.isDirectory path = false) (hfile : snapshot.isFile path = false) :
      FirstObstacle settings snapshot arguments (.missingPath path)
  | noSources (hcompile : settings.PatternsCompile)
      (hnone : StandFor snapshot settings.readablePatterns arguments []) :
      FirstObstacle settings snapshot arguments .noSources

/-- What a run can start with. -/
structure Starts (settings : Settings) (snapshot : Snapshot) (arguments files : List String) :
    Prop where
  patterns_compile : settings.PatternsCompile
  standFor : StandFor snapshot settings.readablePatterns arguments files
  some_file : files ≠ []

theorem plan_of_patternsCompile (hcompile : settings.PatternsCompile) :
    plan settings snapshot paths =
      match expandPaths snapshot settings.readablePatterns (orWorkingDirectory paths) with
      | .error refusal => .error refusal
      | .ok [] => .error .noSources
      | .ok files => .ok files := by
  rw [plan, (settings.exclusions_eq_ok_iff _).2 ⟨hcompile, rfl⟩]
  change (expandPaths snapshot settings.readablePatterns (orWorkingDirectory paths)).bind _ = _
  cases expandPaths snapshot settings.readablePatterns (orWorkingDirectory paths) with
  | error refusal => rfl
  | ok files => cases files <;> rfl

theorem plan_of_exclusions_eq_error {error : PatternError}
    (herror : settings.exclusions = .error error) :
    plan settings snapshot paths = .error (.badPattern error) := by
  rw [plan, herror]
  rfl

theorem plan_eq_error_of_firstObstacle
    (hobstacle : FirstObstacle settings snapshot (orWorkingDirectory paths) refusal) :
    plan settings snapshot paths = .error refusal := by
  cases hobstacle with
  | unreadPattern hpatterns hbefore hfault =>
      exact plan_of_exclusions_eq_error (Settings.exclusions_of_unread hpatterns hbefore hfault)
  | unusablePatterns hread hfault =>
      refine plan_of_exclusions_eq_error ?_
      rw [Settings.exclusions_of_patternsRead hread, hfault]
  | missingPath hcompile harguments hbefore hdirectory hfile =>
      rw [plan_of_patternsCompile hcompile, expandPaths_eq_error_iff.2
        ⟨_, _, _, harguments, hbefore, hdirectory, hfile, rfl⟩]
  | noSources hcompile hnone =>
      rw [plan_of_patternsCompile hcompile, expandPaths_eq_ok_iff_standFor.2 hnone]

theorem plan_eq_ok_of_starts (hstarts : Starts settings snapshot (orWorkingDirectory paths) files) :
    plan settings snapshot paths = .ok files := by
  rw [plan_of_patternsCompile hstarts.patterns_compile,
    expandPaths_eq_ok_iff_standFor.2 hstarts.standFor]
  cases hfiles : files with
  | nil => exact absurd hfiles hstarts.some_file
  | cons first rest => rfl

/-- There is an obstacle or a start. -/
theorem exists_firstObstacle_or_exists_starts (settings : Settings) (snapshot : Snapshot)
    (arguments : List String) :
    (∃ refusal, FirstObstacle settings snapshot arguments refusal) ∨
      ∃ files, Starts settings snapshot arguments files := by
  rcases settings.patternsRead_or_exists_unread with hread |
    ⟨_, _, _, _, hpatterns, hbefore, hfault⟩
  · cases hfault : PatternSet.fault? settings.readablePatterns.patterns with
    | some fault => exact Or.inl ⟨_, .unusablePatterns hread hfault⟩
    | none =>
        have hcompile : settings.PatternsCompile := PatternSet.allUsable_iff.2 ⟨hread, hfault⟩
        cases hexpand : expandPaths snapshot settings.readablePatterns arguments with
        | error refusal =>
            obtain ⟨_, _, _, harguments, hbefore, hdirectory, hfile, -⟩ :=
              expandPaths_eq_error_iff.1 hexpand
            exact Or.inl ⟨_, .missingPath hcompile harguments hbefore hdirectory hfile⟩
        | ok files =>
            have hstand := expandPaths_eq_ok_iff_standFor.1 hexpand
            cases files with
            | nil => exact Or.inl ⟨_, .noSources hcompile hstand⟩
            | cons first rest => exact Or.inr ⟨_, hcompile, hstand, nofun⟩
  · exact Or.inl ⟨_, .unreadPattern hpatterns hbefore hfault⟩

/-- Listing directories logs nothing but the directories that are left out. -/
theorem directoryClosed_of_mem_planEvents {event : Event}
    (hevent : event ∈ planEvents settings snapshot paths) :
    ∃ path cause, event = .directoryClosed path cause := by
  rw [planEvents] at hevent
  split at hevent
  · cases hevent
  · obtain ⟨path, -, hlogged⟩ := List.mem_flatMap.1 hevent
    obtain ⟨closed, -, rfl⟩ := List.mem_map.1 hlogged
    exact ⟨_, _, rfl⟩

/-! ### Runs -/

variable (formatter : Formatter) (fatalErrors json : Bool)

theorem writes_check_of_refused (hplan : plan settings snapshot paths = .error refusal) :
    Writes (check formatter settings snapshot paths fatalErrors json) .trouble
      { stderr := "crest check: " ++ refusal.message ++ "\n"
        events := planEvents settings snapshot paths } := by
  have hcheck : check formatter settings snapshot paths fatalErrors json = (do
      Console.log (planEvents settings snapshot paths)
      Console.printError ("crest check: " ++ refusal.message ++ "\n")
      return .trouble) := by
    rw [check, hplan]
  rw [hcheck]
  refine .congr (.bind (writes_log _) (.bind (writes_printError _) (writes_pure _))) ?_
  rw [Console.append_empty]
  exact Console.ext rfl String.empty_append.symm (List.append_nil _).symm

/-- A run that does not start has not looked at any syntax tree. -/
theorem check_reparsed_of_refused (hplan : plan settings snapshot paths = .error refusal)
    (parse : SourceFile → SyntaxNode) :
    check formatter settings (snapshot.reparsed parse) paths fatalErrors json =
      check formatter settings snapshot paths fatalErrors json := by
  have hreparsed := writes_check_of_refused formatter fatalErrors json
    ((plan_reparsed parse snapshot settings paths).trans hplan)
  rw [planEvents_reparsed] at hreparsed
  exact hreparsed.eq (writes_check_of_refused formatter fatalErrors json hplan)

/-- Either something is in the way, and all that a run writes is the name of the first obstacle, or
the run checks just the files for which the arguments stand. -/
theorem check_refuses_or_checks (settings : Settings) (snapshot : Snapshot) (paths : List String) :
    let arguments := orWorkingDirectory paths
    let run (snapshot : Snapshot) := check formatter settings snapshot paths fatalErrors json
    ((∃ refusal, FirstObstacle settings snapshot arguments refusal) ↔
        ¬∃ files, Starts settings snapshot arguments files) ∧
      (∀ refusal, FirstObstacle settings snapshot arguments refusal →
        ∃ events : List Event,
          (∀ event ∈ events, ∃ path cause, event = .directoryClosed path cause) ∧
          Writes (run snapshot) .trouble
            { stderr := "crest check: " ++ refusal.message ++ "\n", events } ∧
          ∀ parse, run (snapshot.reparsed parse) = run snapshot) ∧
      ∀ files, Starts settings snapshot arguments files →
        let options := optionsOf settings fatalErrors
        let outcomes := CheckedFile.ofPaths options snapshot formatter.verdict files
        outcomes.map (·.path) = files ∧
          Writes (run snapshot) (exitCode (.ofOutcomes outcomes))
            ({ events := planEvents settings snapshot paths
                ++ [.checking files.length options.fatalErrors] } ++
              (shown formatter outcomes ++
                { stdout := closingText formatter json files (.ofOutcomes outcomes) })) := by
  intro arguments run
  refine ⟨⟨?_, ?_⟩, ?_, ?_⟩
  · rintro ⟨refusal, hobstacle⟩ ⟨files, hstarts⟩
    cases (plan_eq_error_of_firstObstacle hobstacle).symm.trans (plan_eq_ok_of_starts hstarts)
  · exact (exists_firstObstacle_or_exists_starts settings snapshot arguments).resolve_right
  · intro refusal hobstacle
    have hplan := plan_eq_error_of_firstObstacle hobstacle
    exact ⟨_, fun _ hevent => directoryClosed_of_mem_planEvents hevent,
      writes_check_of_refused formatter fatalErrors json hplan,
      check_reparsed_of_refused formatter fatalErrors json hplan⟩
  · intro files hstarts options outcomes
    refine ⟨?_, writes_check (plan_eq_ok_of_starts hstarts) formatter fatalErrors json⟩
    change (files.map _).map _ = files
    rw [List.map_map]
    exact List.map_id'' (CheckedFile.ofPath_path options snapshot formatter.verdict) files

end

theorem compileOne_headers :
    PatternSet.compileOne "*.h" = .ok ⟨.plain, [.anyRun, .literal '.', .literal 'h']⟩ := by
  cbv

/-- A pattern that can be read before one that cannot, and a file that exists before a path that is
missing. Of the two obstacles the pattern is named. -/
theorem check_refuses_or_checks_badPattern :
    let settings : Settings := { ignorePatterns := ["*.h", "src/[", "**/x\x7b"] }
    let snapshot := Snapshot.ofFile "a.cpp" ⟨.empty, default⟩
    let refusal : RunRefusal := .badPattern (.unread "src/[" .unclosedClass)
    FirstObstacle settings snapshot ["a.cpp", "b.cpp"] refusal ∧
      ∃ events, Writes (check .json settings snapshot ["a.cpp", "b.cpp"] false true) .trouble
        { stderr := "crest check: " ++ refusal.message ++ "\n", events } := by
  intro settings snapshot refusal
  have hobstacle : FirstObstacle settings snapshot ["a.cpp", "b.cpp"] refusal := by
    have hpatterns : settings.ignorePatterns = ["*.h"] ++ "src/[" :: ["**/x\x7b"] := rfl
    refine .unreadPattern hpatterns ?_ ?_
    · rw [PatternSet.AllRead, List.forall_mem_singleton]
      exact ⟨_, compileOne_headers⟩
    · cbv
  obtain ⟨events, -, hwrites, -⟩ :=
    (check_refuses_or_checks .json false true settings snapshot ["a.cpp", "b.cpp"]).2.1 refusal
      hobstacle
  exact ⟨hobstacle, events, hwrites⟩

/-- The first pattern has one pair of braces too many for a set. -/
def nestedSettings : Settings :=
  { ignorePatterns := [GlobPattern.nestedText Regex.depthLimit, "*.h"] }

theorem patternsRead_nested : nestedSettings.PatternsRead := by
  refine List.forall_mem_cons.2 ⟨⟨_, PatternSet.compileOne_nestedText Regex.depthLimit⟩, ?_⟩
  exact List.forall_mem_singleton.2 ⟨_, compileOne_headers⟩

theorem not_patternsCompile_nested : ¬nestedSettings.PatternsCompile := by
  intro hcompile
  obtain ⟨glob, hglob, hflat⟩ := hcompile _ List.mem_cons_self
  cases (PatternSet.compileOne_nestedText _).symm.trans hglob
  rw [(GlobPattern.isTooDeep_nestedPieces_iff Regex.depthLimit).2 Nat.le.refl] at hflat
  cases hflat

theorem exists_firstObstacle_nested (snapshot : Snapshot) (arguments : List String) :
    ∃ fault, FirstObstacle nestedSettings snapshot arguments
      (.badPattern (.unusable nestedSettings.ignorePatterns fault)) := by
  cases hfault : PatternSet.fault? nestedSettings.readablePatterns.patterns with
  | some fault => exact ⟨fault, .unusablePatterns patternsRead_nested hfault⟩
  | none =>
      exact absurd (PatternSet.allUsable_iff.2 ⟨patternsRead_nested, hfault⟩)
        not_patternsCompile_nested

/-- That each pattern can be read, each path exists and there is a file to check does not make a run
check anything. -/
theorem not_forall_check_of_patternsRead :
    ¬∀ (settings : Settings) (snapshot : Snapshot) (paths files : List String)
        (formatter : Formatter) (fatalErrors json : Bool),
      settings.PatternsRead →
      StandFor snapshot settings.readablePatterns (orWorkingDirectory paths) files →
      files ≠ [] →
      let options := optionsOf settings fatalErrors
      let outcomes := CheckedFile.ofPaths options snapshot formatter.verdict files
      Writes (check formatter settings snapshot paths fatalErrors json)
        (exitCode (.ofOutcomes outcomes))
        ({ events := planEvents settings snapshot paths
            ++ [.checking files.length options.fatalErrors] } ++
          (shown formatter outcomes ++
            { stdout := closingText formatter json files (.ofOutcomes outcomes) })) := by
  intro hall
  let snapshot := Snapshot.ofFile "a.cpp" ⟨.empty, default⟩
  have hstand : StandFor snapshot nestedSettings.readablePatterns ["a.cpp"] ["a.cpp"] :=
    .file (isFile_of_read (Snapshot.read_ofFile _)) .nil
  have hchecks := hall nestedSettings snapshot ["a.cpp"] ["a.cpp"] .json false false
    patternsRead_nested hstand (List.cons_ne_nil _ _)
  obtain ⟨fault, hobstacle⟩ := exists_firstObstacle_nested snapshot ["a.cpp"]
  have hplan : plan nestedSettings snapshot ["a.cpp"] = .error _ :=
    plan_eq_error_of_firstObstacle hobstacle
  have hrefused := writes_check_of_refused .json false false hplan
  have hevents := congrArg (fun result : ExitCode × Console => result.2.events.length)
    (hchecks.run_empty.symm.trans hrefused.run_empty)
  simp only [Console.events_append, List.length_append, List.length_singleton] at hevents
  omega

end Run

end NamingCheck
