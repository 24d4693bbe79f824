import NamingCheck.Proofs.Glob.Set
import NamingCheck.Run.Plan

/-!
# What a run sets out to check

A plan succeeds exactly if every pattern can be read and used, every path leads to a file or a
directory and the paths stand for at least one file.
-/

namespace NamingCheck

namespace Settings

def PatternsRead (settings : Settings) : Prop :=
  PatternSet.AllRead settings.ignorePatterns

/-- The patterns can be read and make a set. -/
def PatternsCompile (settings : Settings) : Prop :=
  PatternSet.AllUsable settings.ignorePatterns

/-- The patterns of the settings, less those that cannot be read. -/
def readablePatterns (settings : Settings) : PatternSet :=
  PatternSet.readable settings.ignorePatterns

theorem exclusions_eq_ok_iff (settings : Settings) (exclude : PatternSet) :
    settings.exclusions = .ok exclude ↔
      settings.PatternsCompile ∧ exclude = settings.readablePatterns :=
  PatternSet.compile_eq_ok_iff

theorem patternsCompile_or_exclusions_eq_error (settings : Settings) :
    settings.PatternsCompile ∨ ∃ error, settings.exclusions = .error error := by
  cases hexclusions : settings.exclusions with
  | error error => exact Or.inr ⟨error, rfl⟩
  | ok exclude => exact Or.inl ((settings.exclusions_eq_ok_iff exclude).1 hexclusions).1

end Settings

namespace Run

theorem orWorkingDirectory_of_ne_nil {paths : List String} (hsome : paths ≠ []) :
    orWorkingDirectory paths = paths := by
  cases paths with
  | nil => exact absurd rfl hsome
  | cons first rest => rfl

/-- The files for which the arguments stand. -/
def filesToCheck (settings : Settings) (snapshot : Snapshot) (paths : List String) : List String :=
  (orWorkingDirectory paths).flatMap fun path =>
    if snapshot.isDirectory path then
      (snapshot.sources path settings.readablePatterns).map (·.path)
    else if snapshot.isFile path then [path]
    else []

def PathsExist (snapshot : Snapshot) (paths : List String) : Prop :=
  ∀ path ∈ paths, snapshot.isDirectory path = true ∨ snapshot.isFile path = true

theorem exists_expandPath_eq_ok_iff (snapshot : Snapshot) (exclude : PatternSet) (path : String) :
    (∃ files, expandPath snapshot exclude path = .ok files) ↔
      snapshot.isDirectory path = true ∨ snapshot.isFile path = true := by
  rw [expandPath]
  split_ifs <;> simp_all

theorem expandPaths_eq_ok_iff (settings : Settings) (snapshot : Snapshot)
    (paths files : List String) :
    expandPaths snapshot settings.readablePatterns (orWorkingDirectory paths) = .ok files ↔
      PathsExist snapshot (orWorkingDirectory paths) ∧
        files = filesToCheck settings snapshot paths := by
  have hflatten :
      ((orWorkingDirectory paths).filterMap fun path =>
          (expandPath snapshot settings.readablePatterns path).toOption).flatten =
        filesToCheck settings snapshot paths := by
    rw [filesToCheck]
    induction orWorkingDirectory paths with
    | nil => rfl
    | cons path rest ih =>
        rw [List.flatMap_cons, ← ih, List.filterMap_cons]
        simp only [expandPath]
        split_ifs <;> simp [Except.toOption]
  rw [expandPaths, map_eq_ok_iff, PathsExist]
  simp only [mapM_eq_ok_iff, exists_expandPath_eq_ok_iff]
  constructor
  · rintro ⟨found, ⟨hexist, rfl⟩, rfl⟩
    exact ⟨hexist, hflatten⟩
  · rintro ⟨hexist, rfl⟩
    exact ⟨_, ⟨hexist, rfl⟩, hflatten⟩

/-- Without arguments the working directory is the only path. If it were missing there would be
nothing to check, so its existence need not be asked for. -/
theorem pathsExist_orWorkingDirectory_iff {settings : Settings} {snapshot : Snapshot}
    {paths : List String} (hsome : filesToCheck settings snapshot paths ≠ []) :
    PathsExist snapshot (orWorkingDirectory paths) ↔ PathsExist snapshot paths := by
  cases paths with
  | cons first rest => rfl
  | nil =>
      refine iff_of_true ?_ nofun
      intro path hpath
      by_contra hmissing
      rw [not_or] at hmissing
      rw [orWorkingDirectory, List.isEmpty_nil, if_pos rfl, List.mem_singleton] at hpath
      subst hpath
      simp [filesToCheck, orWorkingDirectory, hmissing] at hsome

/-- A run starts exactly with good patterns, existing paths and something to check. -/
theorem plan_eq_ok_iff (settings : Settings) (snapshot : Snapshot) (paths files : List String) :
    plan settings snapshot paths = .ok files ↔
      settings.PatternsCompile ∧ PathsExist snapshot paths ∧
        files = filesToCheck settings snapshot paths ∧ files ≠ [] := by
  have hsplit : plan settings snapshot paths = .ok files ↔
      ∃ exclude, settings.exclusions = .ok exclude ∧
        expandPaths snapshot exclude (orWorkingDirectory paths) = .ok files ∧ files ≠ [] := by
    rw [plan]
    cases settings.exclusions with
    | error error => simp [bind, Except.bind, Except.mapError]
    | ok exclude =>
        cases hexpand : expandPaths snapshot exclude (orWorkingDirectory paths) with
        | error refusal => simp [bind, Except.bind, Except.mapError, hexpand]
        | ok found =>
            cases found <;> cases files <;>
              simp [bind, Except.bind, Except.mapError, hexpand]
  rw [hsplit]
  constructor
  · rintro ⟨exclude, hexclude, hexpand, hsome⟩
    obtain ⟨hcompile, rfl⟩ := (settings.exclusions_eq_ok_iff exclude).1 hexclude
    obtain ⟨hexist, rfl⟩ := (expandPaths_eq_ok_iff settings snapshot paths files).1 hexpand
    exact ⟨hcompile, (pathsExist_orWorkingDirectory_iff hsome).1 hexist, rfl, hsome⟩
  · rintro ⟨hcompile, hexist, rfl, hsome⟩
    refine ⟨settings.readablePatterns, (settings.exclusions_eq_ok_iff _).2 ⟨hcompile, rfl⟩, ?_,
      hsome⟩
    exact (expandPaths_eq_ok_iff settings snapshot paths _).2
      ⟨(pathsExist_orWorkingDirectory_iff hsome).2 hexist, rfl⟩

theorem isFile_of_read {snapshot : Snapshot} {path : String} {content : SourceFile}
    (hread : snapshot.read path = .ok content) : snapshot.isFile path = true := by
  rw [Snapshot.isFile, (Snapshot.read_eq_ok_iff.1 hread).2]

theorem isDirectory_of_isFile {snapshot : Snapshot} {path : String}
    (hfile : snapshot.isFile path = true) :
    snapshot.isDirectory path = false := by
  rw [Snapshot.isFile] at hfile
  rw [Snapshot.isDirectory]
  split at hfile
  · next heq => rw [heq]
  · cases hfile

/-- Files stand for themselves. -/
theorem plan_of_isFile {settings : Settings} {snapshot : Snapshot}
    (hpatterns : settings.PatternsCompile) {files : List String} (hsome : files ≠ [])
    (hfiles : ∀ file ∈ files, snapshot.isFile file = true) :
    plan settings snapshot files = .ok files := by
  have hitself (file : String) (hfile : file ∈ files) :
      (if snapshot.isDirectory file then
          (snapshot.sources file settings.readablePatterns).map (·.path)
        else if snapshot.isFile file then [file]
        else []) = [file] := by
    rw [isDirectory_of_isFile (hfiles file hfile), hfiles file hfile]
    rfl
  refine (plan_eq_ok_iff settings snapshot files files).2
    ⟨hpatterns, fun file hfile => Or.inr (hfiles file hfile), ?_, hsome⟩
  rw [filesToCheck, orWorkingDirectory_of_ne_nil hsome, List.flatMap_congr hitself,
    List.flatMap_singleton']

end Run

end NamingCheck
