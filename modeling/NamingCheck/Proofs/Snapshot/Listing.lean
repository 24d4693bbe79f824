import Mathlib.Data.List.Lex
import Mathlib.Data.String.Basic
import NamingCheck.Proofs.Glob.Set
import NamingCheck.Proofs.Snapshot.Findings
import NamingCheck.Proofs.Snapshot.Unruled

/-!
# The listing of a root

The names that lead from the root to the files are sorted, and every file's path puts the names of
the root in front of its own; so the paths come in the order of their components. What stays out for
the sake of a pattern depends on one path at a time, so patterns act as filters.
-/

namespace NamingCheck

open NamingCheck.Path (IsName)

namespace SourceListing

/-! ### Sorted names -/

variable {files : List (List String)}

theorem lex_eq_true_iff {left right : List String} : left.lex right = true ↔ left < right :=
  List.lex_eq_true_iff_lt

theorem not_lex_iff {left right : List String} : (!right.lex left) = true ↔ left ≤ right := by
  rw [Bool.not_eq_true', ← Bool.not_eq_true, lex_eq_true_iff, not_lt]

theorem sorted_pairwise (hnodup : files.Nodup) : (sorted files).Pairwise (· < ·) := by
  have hle : (sorted files).Pairwise fun left right => (!right.lex left) = true := by
    refine List.pairwise_mergeSort ?_ ?_ files
    · intro first middle last hfirst hlast
      rw [not_lex_iff] at hfirst hlast ⊢
      exact hfirst.trans hlast
    · intro left right
      rw [Bool.or_eq_true, not_lex_iff, not_lex_iff]
      exact le_total left right
  have hdistinct : (sorted files).Nodup := (List.mergeSort_perm files _).nodup_iff.2 hnodup
  refine (hle.and hdistinct).imp ?_
  rintro left right ⟨hle, hne⟩
  exact lt_of_le_of_ne (not_lex_iff.1 hle) hne

theorem mem_sorted_iff {names : List String} : names ∈ sorted files ↔ names ∈ files :=
  (List.mergeSort_perm files _).mem_iff

theorem sorted_eq_of_perm {others : List (List String)} (hnodup : files.Nodup)
    (hperm : files.Perm others) : sorted files = sorted others := by
  refine List.Perm.eq_of_pairwise (fun left right _ _ hlt hgt => absurd hgt (lt_asymm hlt))
    (sorted_pairwise hnodup) (sorted_pairwise (hperm.nodup_iff.1 hnodup)) ?_
  exact (List.mergeSort_perm files _).trans (hperm.trans (List.mergeSort_perm others _).symm)

/-- What stands between two lists with the same beginning begins like them. -/
theorem prefix_of_lt_of_lt {beginning first middle last : List String}
    (hfirst : beginning <+: first) (hlast : beginning <+: last) (hbefore : first < middle)
    (hbehind : middle < last) : beginning <+: middle := by
  induction beginning generalizing first middle last with
  | nil => exact List.nil_prefix
  | cons name names ih =>
      obtain ⟨first, rfl⟩ := hfirst
      obtain ⟨last, rfl⟩ := hlast
      rw [List.cons_append] at hbefore hbehind
      cases middle with
      | nil => exact absurd hbefore (List.not_lt_nil _)
      | cons step steps =>
          rw [List.cons_lt_cons_iff] at hbefore hbehind
          rcases hbefore with hlt | ⟨rfl, hbefore⟩
          · rcases hbehind with hgt | ⟨rfl, -⟩
            · exact absurd hgt (lt_asymm hlt)
            · exact absurd hlt (lt_irrefl _)
          · rcases hbehind with hgt | ⟨-, hbehind⟩
            · exact absurd hgt (lt_irrefl _)
            · have hbelow := ih (List.prefix_append _ _) (List.prefix_append _ _) hbefore hbehind
              exact List.cons_prefix_cons.2 ⟨rfl, hbelow⟩

/-! ### Paths below a root -/

/-- The path by which a file is listed, given the names that lead to it from the root. -/
def shownPath (root : String) : List String → String
  | [] => root
  | first :: rest => Path.child root (Path.join (first :: rest))

theorem components_shownPath (root : String) {names : List String}
    (hnames : ∀ name ∈ names, IsName name) :
    Path.components (shownPath root names) = Path.components root ++ names := by
  cases names with
  | nil => exact (List.append_nil _).symm
  | cons first rest => exact Path.components_child_join root hnames

theorem relative_shownPath (root : String) {names : List String}
    (hnames : ∀ name ∈ names, IsName name) :
    Path.relative root (shownPath root names) = Path.join names := by
  cases names with
  | nil => exact Path.relative_self root
  | cons first rest => exact Path.relative_child_join root hnames

theorem entry?_eq_some_iff {exclude : PatternSet} {relative shown : String}
    {entry : SourceEntry} :
    entry? exclude relative shown = some entry ↔
      exclude.matchesPath relative = false ∧ entry.path = shown ∧
        Language.ofPath? shown = some entry.language := by
  cases entry with
  | mk path language =>
      rw [ entry?]
      split_ifs with hmatch
      · simp [hmatch]
      · simp only [Option.map_eq_some_iff, SourceEntry.mk.injEq]
        constructor
        · rintro ⟨found, hfound, rfl, rfl⟩
          exact ⟨Bool.eq_false_iff.2 hmatch, rfl, hfound⟩
        · rintro ⟨-, rfl, hfound⟩
          exact ⟨language, hfound, rfl, rfl⟩

end SourceListing

namespace Snapshot

open SourceListing (Leaves shownPath sorted)

/-! ### The files of a root -/

/-- The regular files that the ignore rules leave of a root, as the names that lead to them: the
root itself if it is a file, or else those below it, if it can be opened. The standard input is no
file. -/
inductive Visible (snapshot : Snapshot) (root : String) : List String → Prop
  | root (hroot : Path.isOnly SourceListing.standardInput root = false)
      (hfile : snapshot.isFile root = true) : Visible snapshot root []
  | below {location names : List String}
      (hroot : Path.isOnly SourceListing.standardInput root = false)
      (hlocation : snapshot.resolve root = .ok location)
      (hopens : snapshot.openFault? root = none)
      (hleaves : Leaves snapshot (IgnoreChain.around snapshot root location) root location names) :
      Visible snapshot root names

def visibleFiles (snapshot : Snapshot) (root : String) : List (List String) :=
  if Path.isOnly SourceListing.standardInput root then []
  else if snapshot.isFile root then [[]]
  else snapshot.filesBelow root

variable {snapshot : Snapshot} {root : String} {names : List String} {exclude : PatternSet}

theorem isFile_eq_false_of_leaves {chain : IgnoreChain} {directory : String}
    {location : List String} (hlocation : snapshot.resolve root = .ok location)
    (hleaves : Leaves snapshot chain directory location names) : snapshot.isFile root = false := by
  obtain ⟨entries, hat, -⟩ := hleaves.exists_entry
  rw [isFile, nodeAt, hlocation]
  simp only [bind, Except.bind, hat]

theorem mem_visibleFiles_iff (hnames : snapshot.root.WellNamed) :
    names ∈ snapshot.visibleFiles root ↔ snapshot.Visible root names := by
  rw [visibleFiles]
  split_ifs with hroot hfile
  · refine iff_of_false List.not_mem_nil fun hvisible => ?_
    cases hvisible with
    | root hother | below hother => exact absurd hroot (Bool.eq_false_iff.1 hother)
  · rw [List.mem_singleton]
    constructor
    · rintro rfl
      exact .root (Bool.eq_false_iff.2 hroot) hfile
    · intro hvisible
      cases hvisible with
      | root => rfl
      | below _ hlocation _ hleaves =>
          rw [isFile_eq_false_of_leaves hlocation hleaves] at hfile
          cases hfile
  · rw [mem_filesBelow_iff hnames]
    constructor
    · rintro ⟨location, hlocation, hopens, hleaves⟩
      exact .below (Bool.eq_false_iff.2 hroot) hlocation hopens hleaves
    · intro hvisible
      cases hvisible with
      | root _ hother => exact absurd hother hfile
      | below _ hlocation hopens hleaves => exact ⟨_, hlocation, hopens, hleaves⟩

theorem nodup_visibleFiles (hnames : snapshot.root.WellNamed) (root : String) :
    (snapshot.visibleFiles root).Nodup := by
  rw [visibleFiles]
  split_ifs
  · exact List.nodup_nil
  · exact List.nodup_singleton []
  · exact nodup_filesBelow hnames root

theorem perm_visibleFiles {other : Snapshot} (hlike : snapshot.LooksLike other)
    (hnames : snapshot.root.WellNamed) (hother : other.root.WellNamed) (root : String) :
    (snapshot.visibleFiles root).Perm (other.visibleFiles root) := by
  rw [visibleFiles, visibleFiles, hlike.isFile_eq]
  split_ifs
  · exact List.Perm.refl _
  · exact List.Perm.refl _
  · exact perm_filesBelow hlike hnames hother root

theorem Visible.isName (hvisible : snapshot.Visible root names)
    (hnames : snapshot.root.WellNamed) : ∀ name ∈ names, IsName name := by
  cases hvisible with
  | root => exact List.forall_mem_nil _
  | below _ _ _ hleaves => exact hleaves.isName hnames

/-! ### The listing -/

theorem sources_eq (hnames : snapshot.root.WellNamed) (root : String) (exclude : PatternSet) :
    snapshot.sources root exclude =
      (sorted (snapshot.visibleFiles root)).filterMap fun names =>
        SourceListing.entry? exclude (Path.join names) (shownPath root names) := by
  rw [sources, visibleFiles]
  split_ifs
  · rw [sorted, List.mergeSort_nil]
    rfl
  · rw [sorted, List.mergeSort_singleton]
    have hself : SourceListing.entry? exclude (Path.join []) (shownPath root []) =
        SourceListing.entry? exclude "" root := rfl
    cases hentry : SourceListing.entry? exclude "" root <;>
      simp only [List.filterMap_cons, hself, hentry] <;> rfl
  · refine List.filterMap_congr fun names hmem => ?_
    obtain ⟨location, -, -, hleaves⟩ :=
      (mem_filesBelow_iff hnames root names).1 (SourceListing.mem_sorted_iff.1 hmem)
    obtain ⟨-, -, first, -, rest, rfl⟩ := hleaves.exists_entry
    rfl

theorem entry?_shownPath_eq_some_iff (hnames : ∀ name ∈ names, IsName name)
    {entry : SourceEntry} :
    SourceListing.entry? exclude (Path.join names) (shownPath root names) = some entry ↔
      entry.path = shownPath root names ∧
        exclude.matchesPath (Path.relative root entry.path) = false ∧
        Language.ofPath? entry.path = some entry.language := by
  rw [SourceListing.entry?_eq_some_iff, and_left_comm]
  refine and_congr_right fun hpath => ?_
  rw [hpath, SourceListing.relative_shownPath root hnames]

theorem mem_sources_iff (hnames : snapshot.root.WellNamed) {entry : SourceEntry} :
    entry ∈ snapshot.sources root exclude ↔
      ∃ names, snapshot.Visible root names ∧ entry.path = shownPath root names ∧
        exclude.matchesPath (Path.relative root entry.path) = false ∧
        Language.ofPath? entry.path = some entry.language := by
  rw [sources_eq hnames, List.mem_filterMap]
  refine exists_congr fun names => ?_
  rw [SourceListing.mem_sorted_iff, mem_visibleFiles_iff hnames]
  exact and_congr_right fun hvisible => entry?_shownPath_eq_some_iff (hvisible.isName hnames)

theorem isName_of_mem_sorted (hnames : snapshot.root.WellNamed)
    (hmem : names ∈ sorted (snapshot.visibleFiles root)) : ∀ name ∈ names, IsName name :=
  ((mem_visibleFiles_iff hnames).1 (SourceListing.mem_sorted_iff.1 hmem)).isName hnames

/-- The paths ascend in the order of their components, not in that of their letters. -/
theorem sources_pairwise (hnames : snapshot.root.WellNamed) (root : String)
    (exclude : PatternSet) :
    (snapshot.sources root exclude).Pairwise fun earlier later =>
      Path.components earlier.path < Path.components later.path := by
  rw [sources_eq hnames, List.pairwise_filterMap]
  refine (SourceListing.sorted_pairwise (nodup_visibleFiles hnames root)).imp_of_mem ?_
  intro left right hleft hright hlt earlier hearlier later hlater
  obtain ⟨-, hleftPath, -⟩ := SourceListing.entry?_eq_some_iff.1 hearlier
  obtain ⟨-, hrightPath, -⟩ := SourceListing.entry?_eq_some_iff.1 hlater
  rw [hleftPath, hrightPath,
    SourceListing.components_shownPath root (isName_of_mem_sorted hnames hleft),
    SourceListing.components_shownPath root (isName_of_mem_sorted hnames hright)]
  exact List.append_left_lt hlt

/-- What is excluded is decided path by path. -/
theorem sources_eq_filter (hnames : snapshot.root.WellNamed) (root : String)
    (exclude : PatternSet) :
    snapshot.sources root exclude =
      (snapshot.sources root ⟨[]⟩).filter fun entry =>
        !exclude.matchesPath (Path.relative root entry.path) := by
  rw [sources_eq hnames, sources_eq hnames, List.filter_filterMap]
  refine List.filterMap_congr fun names hmem => Option.ext fun entry => ?_
  have hisName := isName_of_mem_sorted hnames hmem
  rw [Option.filter_eq_some_iff, entry?_shownPath_eq_some_iff hisName,
    entry?_shownPath_eq_some_iff hisName, Bool.not_eq_true']
  constructor
  · rintro ⟨hpath, hexclude, hlanguage⟩
    exact ⟨⟨hpath, rfl, hlanguage⟩, hexclude⟩
  · rintro ⟨⟨hpath, -, hlanguage⟩, hexclude⟩
    exact ⟨hpath, hexclude, hlanguage⟩

theorem sources_eq_of_looksLike {other : Snapshot} (hlike : snapshot.LooksLike other)
    (hnames : snapshot.root.WellNamed) (hother : other.root.WellNamed) (root : String)
    (exclude : PatternSet) : other.sources root exclude = snapshot.sources root exclude := by
  rw [sources_eq hnames, sources_eq hother,
    SourceListing.sorted_eq_of_perm (nodup_visibleFiles hnames root)
      (perm_visibleFiles hlike hnames hother root)]

/-- A root is listed in the order of the components of the paths, whatever the order in which the
directories list their entries. Listed are the regular files that the ignore rules leave, if their
extension names a language and no pattern matches the path below the root. Patterns given together
act like filters one after the other; so more of them list no other files, and only which they are
matters. -/
theorem sources_of_patterns (hnames : snapshot.root.WellNamed) {patterns : List String}
    (hcompile : PatternSet.compile patterns = .ok exclude) (root : String) :
    let listing := snapshot.sources root exclude
    (∀ reordered : FileNode, snapshot.root.Reordered reordered →
      { snapshot with root := reordered }.sources root exclude = listing) ∧
    (listing.Pairwise fun earlier later =>
      Path.components earlier.path < Path.components later.path) ∧
    (∀ (directory : String) (first middle last : SourceEntry),
      [first, middle, last].Sublist listing → Path.IsWithin directory first.path →
        Path.IsWithin directory last.path → Path.IsWithin directory middle.path) ∧
    (∀ entry, entry ∈ listing ↔
      ∃ names, snapshot.Visible root names ∧ entry.path = shownPath root names ∧
        ¬PatternSet.SomeMatch patterns (Path.relative root entry.path) ∧
        Language.ofPath? entry.path = some entry.language) ∧
    (∀ (others : List String) (other : PatternSet), PatternSet.compile others = .ok other →
      ∃ both, PatternSet.compile (patterns ++ others) = .ok both ∧
        snapshot.sources root both = listing.filter fun entry =>
          !other.matchesPath (Path.relative root entry.path)) ∧
    (∀ (more : List String) (all : PatternSet), patterns ⊆ more →
      PatternSet.compile more = .ok all → (snapshot.sources root all).Sublist listing) ∧
    (∀ others : List String, others ⊆ patterns → patterns ⊆ others →
      ∃ other, PatternSet.compile others = .ok other ∧ snapshot.sources root other = listing) := by
  intro listing
  have hpairwise := sources_pairwise hnames root exclude
  refine ⟨?_, hpairwise, ?_, ?_, ?_, ?_, ?_⟩
  · intro reordered hreordered
    have hlike : snapshot.LooksLike { snapshot with root := reordered } :=
      ⟨rfl, rfl, hreordered.outlineAt?_eq hnames⟩
    exact sources_eq_of_looksLike hlike hnames (hreordered.wellNamed hnames) root exclude
  · intro directory first middle last hsublist hfirst hlast
    have hordered := hpairwise.sublist hsublist
    simp only [List.pairwise_cons, List.mem_cons, List.not_mem_nil, or_false, forall_eq_or_imp,
      forall_eq] at hordered
    exact SourceListing.prefix_of_lt_of_lt hfirst hlast hordered.1.1 hordered.2.1
  · intro entry
    rw [mem_sources_iff hnames]
    simp only [← PatternSet.matchesPath_iff hcompile, Bool.not_eq_true]
  · intro others other hother
    obtain ⟨both, hboth, hmatches⟩ := PatternSet.exists_compile_append hcompile hother
    refine ⟨both, hboth, ?_⟩
    rw [sources_eq_filter hnames, show listing = _ from sources_eq_filter hnames root exclude,
      List.filter_filter]
    simp only [hmatches, Bool.not_or, Bool.and_comm]
  · intro more all hsubset hall
    rw [sources_eq_filter hnames, show listing = _ from sources_eq_filter hnames root exclude]
    refine List.monotone_filter_right _ fun entry hkept => ?_
    rw [Bool.not_eq_true', ← Bool.not_eq_true] at hkept ⊢
    exact fun hmatch => hkept (PatternSet.matchesPath_of_subset hcompile hall hsubset hmatch)
  · intro others hsubset hsuperset
    obtain ⟨other, hother, hmatches⟩ :=
      PatternSet.exists_compile_of_subset hcompile hsubset hsuperset
    refine ⟨other, hother, ?_⟩
    rw [sources_eq_filter hnames, hmatches]
    exact (sources_eq_filter hnames root exclude).symm

/-- Two source files and a directory with a third, not in the order of their names. -/
def walkedEntries : List (String × FileNode) :=
  [("b.cpp", .file default), ("a.c", .file default), ("a", .directory [("x.h", .file default)])]

def walked : Snapshot where
  root := .directory walkedEntries
  workingDirectory := []

theorem wellNamed_walked : walked.root.WellNamed := by
  have hinside : (FileNode.directory [("x.h", .file default)]).WellNamed :=
    .directory (by decide) (by decide) (List.forall_mem_singleton.2 (.file default))
  refine .directory (by decide) (by decide) ?_
  simp only [walkedEntries, List.forall_mem_cons]
  exact ⟨.file default, .file default, hinside, List.forall_mem_nil _⟩

theorem unruled_walked : walked.Unruled := by
  have hnames : ∀ name ∈ IgnoreScope.markers,
      "b.cpp" ≠ name ∧ "a.c" ≠ name ∧ "a" ≠ name ∧ "x.h" ≠ name := by
    decide
  intro name hmarker
  obtain ⟨hb, hc, ha, hx⟩ := hnames name hmarker
  have hfile := FileNode.lacks_file default name
  refine FileNode.lacks_directory ?_
  simp only [walkedEntries, List.forall_mem_cons]
  refine ⟨⟨hb, hfile⟩, ⟨hc, hfile⟩, ⟨ha, FileNode.lacks_directory ?_⟩, List.forall_mem_nil _⟩
  exact List.forall_mem_singleton.2 ⟨hx, hfile⟩

section Walked

variable {access : List String → Access} {path : String} {location : List String}

/-- A path that can be asked for is followed from the root. -/
theorem resolve_walked
    (hsound : path.toList.contains '\x00' = false ∧ isTooLong path = false ∧ (path == "") = false)
    (hwalk : walkSteps access walked.root maxLinks [] (Path.steps path) = .ok location) :
    { walked with access }.resolve path = .ok location := by
  have hstart : (if Path.isAbsolute path then [] else walked.workingDirectory) = [] := by
    split_ifs <;> rfl
  rw [resolve, hsound.1, hsound.2.1, hsound.2.2, hstart]
  exact hwalk

theorem openFault?_walked (hlocation : { walked with access }.resolve path = .ok location)
    (hopens : (access location).openFault = none) :
    { walked with access }.openFault? path = none := by
  rw [openFault?, hlocation]
  exact hopens

theorem resolve_current_walked (hsearch : (access []).searchFault = none) :
    { walked with access }.resolve "." = .ok [] := by
  have hsteps : Path.steps "." = ["."] := by decide +kernel
  refine resolve_walked (by decide +kernel) ?_
  rw [hsteps]
  simp [walkSteps_cons, walkSteps, walked, FileNode.outlineAt?, FileNode.at?, FileNode.outline,
    Access.stepFault?, hsearch]

/-- The inner directory has to be opened, but no step is taken in it. -/
theorem visible_walked (hsearch : (access []).searchFault = none)
    (hopen : (access []).openFault = none) (hinner : (access ["a"]).openFault = none) :
    { walked with access }.Visible "." ["a", "x.h"] := by
  have hcurrent := resolve_current_walked hsearch
  have hdirectory : { walked with access }.resolve (Path.child "." "a") = .ok ["a"] := by
    have hsteps : Path.steps (Path.child "." "a") = [".", "a"] := by decide +kernel
    have hshort : "a".utf8ByteSize ≤ maxNameBytes := by decide
    refine resolve_walked (by decide +kernel) ?_
    rw [hsteps]
    simp [walkSteps_cons, walkSteps, walked, walkedEntries, FileNode.outlineAt?, FileNode.at?,
      FileNode.outline, FileNode.entry?, FileNode.entries, hshort, Access.stepFault?, hsearch]
  have hunruled : { walked with access }.Unruled := unruled_walked
  have hroot := IgnoreChain.Ruleless.around hunruled "." []
  have hinside := hroot.enter hunruled (Path.child "." "a")
  refine .below (by decide +kernel) hcurrent (openFault?_walked hcurrent hopen)
    (.inside rfl ?_ (openFault?_walked hdirectory hinner) (.file rfl ?_))
  · rw [hroot.isVisible_eq]
    decide
  · rw [hinside.isVisible_eq]
    decide

end Walked

theorem sources_of_patterns_walked :
    ∃ exclude, PatternSet.compile ["b*"] = .ok exclude ∧
      { walked with root := .directory walkedEntries.reverse }.sources "." exclude =
        walked.sources "." exclude ∧
      ⟨"./a/x.h", .cpp⟩ ∈ walked.sources "." exclude := by
  have hcompile : PatternSet.compile ["b*"] = .ok ⟨[⟨.plain, [.literal 'b', .anyRun]⟩]⟩ := by
    cbv
  obtain ⟨horder, -, -, hmem, -⟩ := sources_of_patterns wellNamed_walked hcompile "."
  refine ⟨_, hcompile, horder _ (.perm (List.reverse_perm _).symm), ?_⟩
  have hvisible : walked.Visible "." ["a", "x.h"] := visible_walked rfl rfl rfl
  refine (hmem _).2 ⟨["a", "x.h"], hvisible, by decide +kernel, ?_, by decide +kernel⟩
  rw [← PatternSet.matchesPath_iff hcompile]
  decide +kernel

end Snapshot

end NamingCheck
