import NamingCheck.Proofs.Run.Refusal
import NamingCheck.Proofs.Snapshot.Reach

/-!
# Expanding directories by hand

A directory among the arguments stands for the files of its listing, and so do their paths, each for
the file that it leads to. No pattern is held against files that are named, but those of the listing
have been past the patterns already. What can go wrong is that a path of the listing leads nowhere:
it is too long, or no step can be taken in the directory that holds the file. The listing does not
mind, since an entry of a directory tells by itself that it is a file.
-/

namespace NamingCheck.Run

/-- The arguments with every directory replaced by the paths of its listing. -/
def expandedByHand (snapshot : Snapshot) (exclude : PatternSet) (paths : List String) :
    List String :=
  paths.flatMap fun path =>
    if snapshot.isDirectory path then (snapshot.sources path exclude).map (·.path) else [path]

/-- Every file that is listed for a directory can be reached by its path. -/
def ListsReachableFiles (snapshot : Snapshot) (exclude : PatternSet) (paths : List String) : Prop :=
  ∀ path ∈ paths, snapshot.isDirectory path = true → ∀ names, snapshot.Visible path names →
    (∃ entry ∈ snapshot.sources path exclude, entry.path = SourceListing.shownPath path names) →
      snapshot.Reachable path names

/-- The same in all but the log. -/
structure SameButLog (left right : ExitCode × Console) : Prop where
  exitCode_eq : right.1 = left.1
  stdout_eq : right.2.stdout = left.2.stdout
  stderr_eq : right.2.stderr = left.2.stderr

/-- With directories expanded by hand, arguments stand for the same files in the same order, and if
any are left a run shows the same. -/
structure ExpandsAlike (settings : Settings) (snapshot : Snapshot) (paths : List String) :
    Prop where
  files_eq :
    expandPaths snapshot settings.readablePatterns
        (expandedByHand snapshot settings.readablePatterns paths) =
      expandPaths snapshot settings.readablePatterns paths
  shown : expandedByHand snapshot settings.readablePatterns paths ≠ [] →
    ∀ (formatter : Formatter) (fatalErrors json : Bool),
      SameButLog ((check formatter settings snapshot paths fatalErrors json).run {})
        ((check formatter settings snapshot
          (expandedByHand snapshot settings.readablePatterns paths) fatalErrors json).run {})

section

variable {snapshot : Snapshot} {exclude : PatternSet} {settings : Settings}
  {paths others files : List String} {path : String}

/-! ### The files of the arguments -/

/-- A directory is not its own listing, so a listed file is below it. -/
theorem exists_leaves_of_visible (hdirectory : snapshot.isDirectory path = true)
    {names : List String} (hvisible : snapshot.Visible path names) :
    ∃ location, snapshot.resolve path = .ok location ∧
      SourceListing.Leaves snapshot (IgnoreChain.around snapshot path location) path location
        names := by
  cases hvisible with
  | root _ hfile =>
      rw [isDirectory_of_isFile hfile] at hdirectory
      cases hdirectory
  | below _ hlocation _ hleaves => exact ⟨_, hlocation, hleaves⟩

theorem isFile_of_mem_sources (hnames : snapshot.root.WellNamed) (hfit : snapshot.root.NamesFit)
    (hreachable : ListsReachableFiles snapshot exclude paths) (hpath : path ∈ paths)
    (hdirectory : snapshot.isDirectory path = true) {entry : SourceEntry}
    (hentry : entry ∈ snapshot.sources path exclude) : snapshot.isFile entry.path = true := by
  obtain ⟨names, hvisible, hshown, -⟩ := (Snapshot.mem_sources_iff hnames).1 hentry
  obtain ⟨location, hlocation, hleaves⟩ := exists_leaves_of_visible hdirectory hvisible
  rw [hshown]
  exact Snapshot.isFile_of_reachable hnames hfit hlocation hleaves
    (hreachable path hpath hdirectory names hvisible ⟨entry, hentry, hshown⟩)

theorem expandPaths_append_of_isFile (hfiles : ∀ file ∈ files, snapshot.isFile file = true)
    (rest : List String) :
    expandPaths snapshot exclude (files ++ rest) =
      (expandPaths snapshot exclude rest).map (files ++ ·) := by
  induction files with
  | nil =>
      rw [List.nil_append]
      cases expandPaths snapshot exclude rest <;> rfl
  | cons file others ih =>
      rw [List.forall_mem_cons] at hfiles
      have hfile : expandPath snapshot exclude file = .ok [file] := by
        rw [expandPath, isDirectory_of_isFile hfiles.1, hfiles.1]
        rfl
      rw [List.cons_append, expandPaths_cons, hfile, ih hfiles.2]
      cases expandPaths snapshot exclude rest <;> rfl

theorem expandPaths_expandedByHand (hnames : snapshot.root.WellNamed)
    (hfit : snapshot.root.NamesFit) (hreachable : ListsReachableFiles snapshot exclude paths) :
    expandPaths snapshot exclude (expandedByHand snapshot exclude paths) =
      expandPaths snapshot exclude paths := by
  induction paths with
  | nil => rfl
  | cons path rest ih =>
      have hrest := ih fun other hother => hreachable other (List.mem_cons_of_mem path hother)
      rw [expandedByHand, List.flatMap_cons, ← expandedByHand, expandPaths_cons path]
      by_cases hdirectory : snapshot.isDirectory path = true
      · have hfiles : ∀ file ∈ (snapshot.sources path exclude).map (·.path),
            snapshot.isFile file = true := by
          rw [List.forall_mem_map]
          exact fun entry hentry => isFile_of_mem_sources hnames hfit hreachable
            List.mem_cons_self hdirectory hentry
        rw [if_pos hdirectory, expandPaths_append_of_isFile hfiles, hrest, expandPath,
          if_pos hdirectory]
        cases expandPaths snapshot exclude rest <;> rfl
      · rw [if_neg hdirectory, List.singleton_append, expandPaths_cons, hrest]

theorem StandFor.pathsExist (hstand : StandFor snapshot exclude paths files) :
    PathsExist snapshot paths := by
  induction hstand with
  | nil => exact List.forall_mem_nil _
  | file hfile _ ih => exact List.forall_mem_cons.2 ⟨Or.inr hfile, ih⟩
  | directory hdirectory _ ih => exact List.forall_mem_cons.2 ⟨Or.inl hdirectory, ih⟩

/-- A path that leads nowhere is neither a directory nor a file. -/
theorem expandPaths_expandedByHand_of_unreachable (hnames : snapshot.root.WellNamed)
    (hfit : snapshot.root.NamesFit) (hlost : ¬ListsReachableFiles snapshot exclude paths) :
    ∃ refusal, expandPaths snapshot exclude (expandedByHand snapshot exclude paths) =
      .error refusal := by
  simp only [ListsReachableFiles, not_forall, exists_prop] at hlost
  obtain ⟨path, hpath, hdirectory, names, hvisible, ⟨entry, hentry, hshown⟩, hhidden⟩ := hlost
  have hmem : entry.path ∈ expandedByHand snapshot exclude paths := by
    refine List.mem_flatMap.2 ⟨path, hpath, ?_⟩
    rw [if_pos hdirectory]
    exact List.mem_map_of_mem hentry
  obtain ⟨location, hlocation, hleaves⟩ := exists_leaves_of_visible hdirectory hvisible
  obtain ⟨cause, hcause⟩ := Snapshot.exists_nodeAt_eq_error_of_not_reachable hnames hfit
    hlocation hleaves hhidden
  cases hexpand : expandPaths snapshot exclude (expandedByHand snapshot exclude paths) with
  | error refusal => exact ⟨refusal, rfl⟩
  | ok files =>
      have hexist := (expandPaths_eq_ok_iff_standFor.1 hexpand).pathsExist entry.path hmem
      rw [hshown, Snapshot.isDirectory, Snapshot.isFile, hcause] at hexist
      rcases hexist with hexist | hexist <;> cases hexist

/-- Arguments that all exist stand for files, and do so no longer once one of their listings has a
file that cannot be reached. -/
theorem not_expandsAlike_of_unreachable (hnames : snapshot.root.WellNamed)
    (hfit : snapshot.root.NamesFit) (hexist : PathsExist snapshot paths)
    (hlost : ¬ListsReachableFiles snapshot settings.readablePatterns paths) :
    ¬ExpandsAlike settings snapshot paths := by
  intro halike
  obtain ⟨refusal, hrefusal⟩ := expandPaths_expandedByHand_of_unreachable hnames hfit hlost
  rw [halike.files_eq, expandPaths_eq_error_iff] at hrefusal
  obtain ⟨before, path, after, rfl, -, hdirectory, hfile, -⟩ := hrefusal
  have hmem : path ∈ before ++ path :: after := List.mem_append_right before List.mem_cons_self
  rcases hexist path hmem with hpath | hpath
  · rw [hdirectory] at hpath
    cases hpath
  · rw [hfile] at hpath
    cases hpath

/-! ### Runs -/

theorem plan_congr (hsome : paths ≠ []) (hothers : others ≠ [])
    (hsame : expandPaths snapshot settings.readablePatterns paths =
      expandPaths snapshot settings.readablePatterns others) :
    plan settings snapshot paths = plan settings snapshot others := by
  rcases settings.patternsCompile_or_exclusions_eq_error with hcompile | ⟨error, herror⟩
  · rw [plan_of_patternsCompile hcompile, plan_of_patternsCompile hcompile,
      orWorkingDirectory_of_ne_nil hsome, orWorkingDirectory_of_ne_nil hothers, hsame]
  · rw [plan_of_exclusions_eq_error herror, plan_of_exclusions_eq_error herror]

/-- What a run shows depends on its plan alone. -/
theorem sameButLog_of_plan_eq
    (hplan : plan settings snapshot others = plan settings snapshot paths) (formatter : Formatter)
    (fatalErrors json : Bool) :
    SameButLog ((check formatter settings snapshot paths fatalErrors json).run {})
      ((check formatter settings snapshot others fatalErrors json).run {}) := by
  cases hpaths : plan settings snapshot paths with
  | error refusal =>
      rw [(writes_check_of_refused formatter fatalErrors json hpaths).run_empty,
        (writes_check_of_refused formatter fatalErrors json (hplan.trans hpaths)).run_empty]
      exact ⟨rfl, rfl, rfl⟩
  | ok files =>
      rw [(writes_check hpaths formatter fatalErrors json).run_empty,
        (writes_check (hplan.trans hpaths) formatter fatalErrors json).run_empty]
      exact ⟨rfl, rfl, rfl⟩

theorem ne_nil_of_expandedByHand (hsome : expandedByHand snapshot exclude paths ≠ []) :
    paths ≠ [] := by
  rintro rfl
  exact hsome rfl

theorem plan_expandedByHand_of_unreachable (hnames : snapshot.root.WellNamed)
    (hfit : snapshot.root.NamesFit)
    (hlost : ¬ListsReachableFiles snapshot settings.readablePatterns paths) :
    ∃ refusal, plan settings snapshot
      (expandedByHand snapshot settings.readablePatterns paths) = .error refusal := by
  obtain ⟨refusal, hrefusal⟩ := expandPaths_expandedByHand_of_unreachable hnames hfit hlost
  have hsome : expandedByHand snapshot settings.readablePatterns paths ≠ [] := by
    intro hnone
    rw [hnone] at hrefusal
    cases hrefusal
  rcases settings.patternsCompile_or_exclusions_eq_error with hcompile | ⟨error, herror⟩
  · refine ⟨refusal, ?_⟩
    rw [plan_of_patternsCompile hcompile, orWorkingDirectory_of_ne_nil hsome, hrefusal]
  · exact ⟨.badPattern error, plan_of_exclusions_eq_error herror⟩

end

/-! ### A root with a long path

The directory `.` can also be named with any number of separators behind the dot. -/

open Snapshot (isTooLong maxPathBytes walkSteps walked walkedEntries)
open SourceListing (Leaves shownPath)

def dotted (separators : Nat) : String :=
  String.ofList ('.' :: List.replicate separators Path.separator)

theorem dotted_zero : dotted 0 = "." := rfl

theorem dotted_succ (n : Nat) : dotted (n + 1) = dotted n ++ "/" ++ "" := by
  rw [← String.toList_inj]
  simp [dotted, List.replicate_succ', Path.separator]

theorem steps_dotted (n : Nat) : Path.steps (dotted n) = "." :: List.replicate n "" := by
  induction n with
  | zero => exact Path.steps_of_notMem (by decide)
  | succ n ih =>
      rw [dotted_succ, Path.steps_append_separator, ih, List.replicate_succ', List.cons_append]
      rfl

theorem utf8ByteSize_dotted (n : Nat) : (dotted n).utf8ByteSize = n + 1 := by
  induction n with
  | zero => decide
  | succ n ih =>
      rw [dotted_succ, String.utf8ByteSize_append, String.utf8ByteSize_append, ih]
      rfl

theorem walkSteps_dotted (links n : Nat) :
    walkSteps walked.access walked.root links [] ("." :: List.replicate n "") = .ok [] := by
  have hstay (rest : List String) {step : String} (hstep : step = "" ∨ step = ".") :
      walkSteps walked.access walked.root links [] (step :: rest) =
        walkSteps walked.access walked.root links [] rest := by
    rw [Snapshot.walkSteps_cons]
    rcases hstep with rfl | rfl <;> rfl
  rw [hstay _ (Or.inr rfl)]
  induction n with
  | zero => rw [List.replicate_zero, walkSteps]
  | succ n ih => rw [List.replicate_succ, hstay _ (Or.inl rfl), ih]

theorem resolve_dotted {n : Nat} (hn : n < maxPathBytes) : walked.resolve (dotted n) = .ok [] := by
  have hnul : '\x00' ∉ (dotted n).toList := by
    simp [dotted, List.mem_replicate, Path.separator]
  have hshort : isTooLong (dotted n) = false := by
    rw [isTooLong, utf8ByteSize_dotted, decide_eq_false_iff_not]
    omega
  have hempty : dotted n ≠ "" := by
    intro heq
    have hsize := utf8ByteSize_dotted n
    rw [heq] at hsize
    cases hsize
  have hstart : (if Path.isAbsolute (dotted n) then [] else walked.workingDirectory) = [] := by
    split_ifs <;> rfl
  refine Snapshot.resolve_eq_ok_iff.2 ⟨hnul, hshort, hempty, ?_⟩
  rw [hstart, steps_dotted]
  exact walkSteps_dotted _ n

theorem isDirectory_dotted {n : Nat} (hn : n < maxPathBytes) :
    walked.isDirectory (dotted n) = true := by
  rw [Snapshot.isDirectory, Snapshot.nodeAt, resolve_dotted hn]
  rfl

theorem visible_dotted {n : Nat} (hn : n < maxPathBytes) :
    walked.Visible (dotted n) ["b.cpp"] := by
  have hroot : Path.isOnly SourceListing.standardInput (dotted n) = false := by
    rw [Path.isOnly, steps_dotted]
    rfl
  have hruleless := IgnoreChain.Ruleless.around Snapshot.unruled_walked (dotted n) []
  refine .below hroot (resolve_dotted hn) (Snapshot.openFault?_walked (resolve_dotted hn) rfl)
    (.file rfl ?_)
  rw [hruleless.isVisible_eq]
  decide

/-- However the root is spelled, its listing has the file `b.cpp`. -/
theorem mem_sources_dotted {n : Nat} (hn : n < maxPathBytes) :
    ⟨shownPath (dotted n) ["b.cpp"], .cpp⟩ ∈ walked.sources (dotted n) ⟨[]⟩ := by
  have hextension : Path.extension? (shownPath (dotted n) ["b.cpp"]) = some "cpp" := by
    rw [Path.extension?, SourceListing.components_shownPath _ (by decide), List.getLast?_concat]
    decide
  refine (Snapshot.mem_sources_iff Snapshot.wellNamed_walked).2
    ⟨_, visible_dotted hn, rfl, rfl, ?_⟩
  rw [Language.ofPath?, hextension]
  rfl

theorem namesFit_walked : walked.root.NamesFit := by
  have hfile := FileNode.namesFit_file default
  refine FileNode.namesFit_directory ?_
  simp only [walkedEntries, List.forall_mem_cons]
  refine ⟨⟨by decide, hfile⟩, ⟨by decide, hfile⟩, ⟨by decide, ?_⟩, List.forall_mem_nil _⟩
  exact FileNode.namesFit_directory (List.forall_mem_singleton.2 ⟨by decide, hfile⟩)

section

variable {access : List String → Access} {root : String} {names : List String}

/-- Whatever path leads to it and whatever is in the way, nothing else is found in the directory. -/
theorem names_of_visible_walked (hroot : { walked with access }.resolve root = .ok [])
    (hvisible : { walked with access }.Visible root names) :
    names ∈ [["b.cpp"], ["a.c"], ["a", "x.h"]] := by
  cases hvisible with
  | root _ hfile =>
      rw [Snapshot.isFile, Snapshot.nodeAt, hroot] at hfile
      cases hfile
  | below _ hlocation _ hleaves =>
      cases hroot.symm.trans hlocation
      obtain ⟨entries, hentries, first, hfirst, rest, rfl⟩ := hleaves.exists_entry
      cases hentries
      simp only [walkedEntries, List.map_cons, List.map_nil, List.mem_cons, List.not_mem_nil,
        or_false] at hfirst
      rcases hfirst with rfl | rfl | rfl
      · obtain ⟨rfl, -⟩ := (SourceListing.leaves_file_iff rfl).1 hleaves
        decide
      · obtain ⟨rfl, -⟩ := (SourceListing.leaves_file_iff rfl).1 hleaves
        decide
      · obtain ⟨-, -, hinside⟩ := (SourceListing.leaves_directory_iff rfl).1 hleaves
        obtain ⟨entries, hentries, first, hfirst, rest, rfl⟩ := hinside.exists_entry
        cases hentries
        rw [List.map_singleton, List.mem_singleton] at hfirst
        subst hfirst
        obtain ⟨rfl, -⟩ := (SourceListing.leaves_file_iff rfl).1 hinside
        decide

theorem isTooLong_of_visible_walked (hroot : { walked with access }.resolve "." = .ok [])
    (hvisible : { walked with access }.Visible "." names) :
    isTooLong (shownPath "." names) = false := by
  have hshort : ∀ names ∈ [["b.cpp"], ["a.c"], ["a", "x.h"]],
      isTooLong (shownPath "." names) = false := by
    decide +kernel
  exact hshort names (names_of_visible_walked hroot hvisible)

end

theorem listsReachableFiles_walked (exclude : PatternSet) :
    ListsReachableFiles walked exclude ["."] := by
  intro path hpath _ names hvisible _
  cases List.mem_singleton.1 hpath
  exact ⟨isTooLong_of_visible_walked (Snapshot.resolve_current_walked rfl) hvisible, fun _ _ => rfl⟩

/-- The root can be so long that it can be opened but the file cannot. -/
theorem not_listsReachableFiles_dotted {n : Nat} (hn : n < maxPathBytes)
    (hlong : maxPathBytes ≤ n + "b.cpp".utf8ByteSize) :
    ¬ListsReachableFiles walked ⟨[]⟩ [dotted n] := by
  intro hreachable
  have hlisted := mem_sources_dotted hn
  have hshort : isTooLong (shownPath (dotted n) ["b.cpp"]) = false :=
    (hreachable _ (List.mem_singleton_self _) (isDirectory_dotted hn) _ (visible_dotted hn)
      ⟨_, hlisted, rfl⟩).short
  have hpath : (dotted n).utf8ByteSize + "b.cpp".utf8ByteSize ≤
      (shownPath (dotted n) ["b.cpp"]).utf8ByteSize := by
    change _ ≤ (Path.child (dotted n) "b.cpp").utf8ByteSize
    rw [Path.child]
    split_ifs <;> simp only [String.utf8ByteSize_append] <;> omega
  rw [isTooLong, decide_eq_false_iff_not] at hshort
  rw [utf8ByteSize_dotted] at hpath
  omega

/-! ### A directory in which no step can be taken -/

/-- All directories can be opened, but nothing in the inner one can be reached. -/
def closedOff : Snapshot :=
  { walked with
    access := fun location =>
      { searchFault := if location = ["a"] then some .permissionDenied else none } }

theorem wellNamed_closedOff : closedOff.root.WellNamed := Snapshot.wellNamed_walked

theorem resolve_closedOff : closedOff.resolve "." = .ok [] :=
  Snapshot.resolve_current_walked rfl

theorem isDirectory_closedOff : closedOff.isDirectory "." = true := by
  rw [Snapshot.isDirectory, Snapshot.nodeAt, resolve_closedOff]
  rfl

theorem not_listsReachableFiles_closedOff : ¬ListsReachableFiles closedOff ⟨[]⟩ ["."] := by
  intro hreachable
  have hvisible : closedOff.Visible "." ["a", "x.h"] := Snapshot.visible_walked rfl rfl rfl
  have hlisted : ⟨shownPath "." ["a", "x.h"], .cpp⟩ ∈ closedOff.sources "." ⟨[]⟩ :=
    (Snapshot.mem_sources_iff wellNamed_closedOff).2 ⟨_, hvisible, rfl, rfl, by decide +kernel⟩
  have hsearch := (hreachable _ (List.mem_singleton_self _) isDirectory_closedOff _ hvisible
    ⟨_, hlisted, rfl⟩).searchable [] resolve_closedOff
  cases hsearch

/-! ### Runs with expanded arguments -/

/-- As long as the files of the listings can be reached by their paths, expanding directories by
hand changes nothing. Else the run with the expanded arguments is refused. -/
theorem check_expandedByHand {snapshot : Snapshot} (hnames : snapshot.root.WellNamed)
    (hfit : snapshot.root.NamesFit) (settings : Settings) (paths : List String) :
    let exclude := settings.readablePatterns
    (ListsReachableFiles snapshot exclude paths → ExpandsAlike settings snapshot paths) ∧
    (¬ListsReachableFiles snapshot exclude paths →
      ∃ refusal, plan settings snapshot (expandedByHand snapshot exclude paths) =
        .error refusal) := by
  intro exclude
  refine ⟨fun hreachable => ?_, plan_expandedByHand_of_unreachable hnames hfit⟩
  have hsame := expandPaths_expandedByHand hnames hfit hreachable
  refine ⟨hsame, fun hsome formatter fatalErrors json => ?_⟩
  exact sameButLog_of_plan_eq (plan_congr hsome (ne_nil_of_expandedByHand hsome) hsame) formatter
    fatalErrors json

theorem check_expandedByHand_walked :
    let expanded := expandedByHand walked ⟨[]⟩ ["."]
    "./b.cpp" ∈ expanded ∧
      SameButLog ((check (.human .plain) {} walked ["."] false false).run {})
        ((check (.human .plain) {} walked expanded false false).run {}) := by
  intro expanded
  have hlisted : "./b.cpp" ∈ expanded := by
    refine List.mem_flatMap.2 ⟨".", List.mem_singleton_self _, ?_⟩
    have hzero : 0 < maxPathBytes := by decide
    rw [← dotted_zero, if_pos (isDirectory_dotted hzero)]
    exact List.mem_map_of_mem (mem_sources_dotted hzero)
  obtain ⟨halike, -⟩ := check_expandedByHand Snapshot.wellNamed_walked namesFit_walked {} ["."]
  have hshown := (halike (listsReachableFiles_walked _)).shown
  exact ⟨hlisted, hshown (List.ne_nil_of_mem hlisted) (.human .plain) false false⟩

/-- Neither is it enough that the paths of the listings are short nor that a step can be taken in
every directory. -/
theorem not_forall_check_expandedByHand :
    (¬∀ (settings : Settings) (snapshot : Snapshot) (paths : List String),
      snapshot.root.WellNamed → snapshot.root.NamesFit →
      (∀ location, (snapshot.access location).searchFault = none) →
      ExpandsAlike settings snapshot paths) ∧
    ¬∀ (settings : Settings) (snapshot : Snapshot) (paths : List String),
      snapshot.root.WellNamed → snapshot.root.NamesFit →
      (∀ path ∈ paths, ∀ names, snapshot.Visible path names →
        isTooLong (shownPath path names) = false) →
      ExpandsAlike settings snapshot paths := by
  constructor
  · intro hall
    obtain ⟨n, hn, hlong⟩ : ∃ n, n < maxPathBytes ∧ maxPathBytes ≤ n + "b.cpp".utf8ByteSize :=
      ⟨4090, by decide, by decide⟩
    have hlost : ¬ListsReachableFiles walked (Settings.readablePatterns {}) [dotted n] :=
      not_listsReachableFiles_dotted hn hlong
    have hexist : PathsExist walked [dotted n] :=
      List.forall_mem_singleton.2 (Or.inl (isDirectory_dotted hn))
    exact not_expandsAlike_of_unreachable Snapshot.wellNamed_walked namesFit_walked hexist hlost
      (hall _ _ _ Snapshot.wellNamed_walked namesFit_walked fun _ => rfl)
  · intro hall
    have hlost : ¬ListsReachableFiles closedOff (Settings.readablePatterns {}) ["."] :=
      not_listsReachableFiles_closedOff
    have hexist : PathsExist closedOff ["."] :=
      List.forall_mem_singleton.2 (Or.inl isDirectory_closedOff)
    have hshort : ∀ path ∈ ["."], ∀ names, closedOff.Visible path names →
        isTooLong (shownPath path names) = false := by
      intro path hpath names hvisible
      cases List.mem_singleton.1 hpath
      exact isTooLong_of_visible_walked resolve_closedOff hvisible
    exact not_expandsAlike_of_unreachable wellNamed_closedOff namesFit_walked hexist hlost
      (hall _ _ _ wellNamed_closedOff namesFit_walked hshort)

end NamingCheck.Run
