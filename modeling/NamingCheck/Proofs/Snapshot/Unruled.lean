import NamingCheck.Proofs.Snapshot.WellNamed

/-!
# Without ignore files

A path with a step that no entry is named for leads nowhere. So where nothing has the name of an
ignore file or marks a repository, there are no rules, and only a dot in front hides an entry.
-/

namespace NamingCheck

open NamingCheck.Path (IsName)

namespace FileNode

/-- Nothing has the name, wherever one looks. -/
def Lacks (root : FileNode) (name : String) : Prop :=
  ∀ here, root.outlineAt? (here ++ [name]) = none

variable {root : FileNode} {name : String}

theorem lacks_file (content : SourceFile) (name : String) : Lacks (file content) name := by
  intro here
  cases here <;> rfl

theorem lacks_directory {entries : List (String × FileNode)}
    (hentries : ∀ entry ∈ entries, entry.1 ≠ name ∧ entry.2.Lacks name) :
    Lacks (directory entries) name := by
  intro here
  cases here with
  | nil =>
      have hnone : entry? (directory entries) name = none := by
        rw [ entry?, Option.map_eq_none_iff, List.find?_eq_none]
        intro entry hmem
        simpa using (hentries entry hmem).1
      rw [List.nil_append, outlineAt?, at?, hnone]
      rfl
  | cons step steps =>
      rw [List.cons_append, outlineAt?, at?]
      cases hentry : entry? (directory entries) step with
      | none => rfl
      | some below =>
          obtain ⟨entry, hfind, rfl⟩ := Option.map_eq_some_iff.1 hentry
          exact (hentries entry (List.mem_of_find?_eq_some hfind)).2 steps

theorem Lacks.ne_of_found (hlacks : root.Lacks name) {here : List String} {step : String}
    {node entry : FileNode} (hat : root.at? here = some node)
    (hentry : node.entry? step = some entry) : name ≠ step := by
  rintro rfl
  have hnone := hlacks here
  rw [FileNode.outlineAt?, FileNode.at?_concat, hat, Option.bind_some, hentry] at hnone
  cases hnone

end FileNode

namespace Snapshot

variable {snapshot : Snapshot} {name path : String}

/-- Links may add steps in front of the one that is lacking, but the walk never gets past it. -/
theorem walkSteps_ne_ok_of_lacks (hlacks : snapshot.root.Lacks name) (hname : IsName name)
    {links : Nat} {here pending : List String} (hmem : name ∈ pending) (location : List String) :
    walkSteps snapshot.access snapshot.root links here pending ≠ .ok location := by
  have hrest {step : String} {rest : List String} (hmem : name ∈ step :: rest)
      (hne : name ≠ step) : name ∈ rest :=
    (List.mem_cons.1 hmem).resolve_left hne
  fun_induction walkSteps snapshot.access snapshot.root links here pending
  case case1 => cases hmem
  case case5 here step rest node hat hdirectory _ hskip ih =>
    refine ih (hrest hmem ?_)
    rintro rfl
    simp [hname.1, hname.2.1] at hskip
  case case6 here step rest node hat hdirectory _ hskip hup ih =>
    refine ih (hrest hmem ?_)
    rintro rfl
    exact hname.2.2.1 (beq_iff_eq.1 hup)
  case case10 here step rest node hat _ _ _ _ _ target hentry links ih =>
    exact ih (List.mem_append_right _ (hrest hmem (hlacks.ne_of_found hat hentry)))
  case case11 here step rest node hat _ _ _ _ _ entry _ hentry ih =>
    exact ih (hrest hmem (hlacks.ne_of_found hat hentry))
  all_goals
    intro hwalk
    cases hwalk

theorem outlineOf_of_lacks (hlacks : snapshot.root.Lacks name) (hname : IsName name)
    (hmem : name ∈ Path.components path) : ∃ cause, snapshot.outlineOf path = .error cause := by
  have hstep : name ∈ Path.steps path := List.mem_of_mem_filter hmem
  rw [outlineOf_eq]
  cases hresolve : snapshot.resolve path with
  | error cause => exact ⟨cause, rfl⟩
  | ok location =>
      rw [resolve] at hresolve
      split_ifs at hresolve
      all_goals exact absurd hresolve (walkSteps_ne_ok_of_lacks hlacks hname hstep location)

end Snapshot

/-- The names by which ignore files and repositories are found. -/
def IgnoreScope.markers : List String := [".crestignore", ".ignore", ".gitignore", ".git", ".jj"]

theorem IgnoreScope.mem_components_child (directory : String) {name : String}
    (hname : name ∈ markers) : name ∈ Path.components (Path.child directory name) := by
  have hself : ∀ name ∈ markers, name ∈ Path.components name := by
    decide +kernel
  rw [Path.components_child]
  exact List.mem_append_right _ (hself name hname)

/-- There is neither an ignore file nor a repository. -/
def Snapshot.Unruled (snapshot : Snapshot) : Prop :=
  ∀ name ∈ IgnoreScope.markers, snapshot.root.Lacks name

namespace Snapshot.Unruled

variable {snapshot : Snapshot} (hunruled : snapshot.Unruled) {name path : String}
include hunruled

theorem outlineOf_eq_error (hname : name ∈ IgnoreScope.markers)
    (hmem : name ∈ Path.components path) : ∃ cause, snapshot.outlineOf path = .error cause := by
  have hisName : ∀ name ∈ IgnoreScope.markers, IsName name := by
    decide
  exact outlineOf_of_lacks (hunruled name hname) (hisName name hname) hmem

theorem rulesAt_eq_nil (hname : name ∈ IgnoreScope.markers)
    (hmem : name ∈ Path.components path) : IgnoreScope.rulesAt snapshot path = [] := by
  obtain ⟨cause, houtline⟩ := hunruled.outlineOf_eq_error hname hmem
  rw [IgnoreScope.rulesAt_eq, bytesOf?_eq, houtline]
  cases snapshot.openFault? path <;> rfl

theorem excludeRules_eq_nil (directory : String) :
    ((Repository.excludeFile? snapshot directory).map (IgnoreScope.rulesAt snapshot)).getD [] =
      [] := by
  have hgit : ".git" ∈ IgnoreScope.markers := by decide
  have hmem := IgnoreScope.mem_components_child directory hgit
  have hfile : snapshot.isFile (Path.child directory ".git") = false := by
    obtain ⟨cause, houtline⟩ := hunruled.outlineOf_eq_error hgit hmem
    rw [isFile_eq, houtline]
  have hinside : ".git" ∈
      Path.components (Path.child (Path.child directory ".git") "info/exclude") := by
    rw [Path.components_child]
    exact List.mem_append_left _ hmem
  rw [Repository.excludeFile?, hfile]
  exact hunruled.rulesAt_eq_nil hgit hinside

end Snapshot.Unruled

/-- No scope of the chain has a rule. -/
def IgnoreChain.Ruleless (chain : IgnoreChain) : Prop :=
  ∀ scope ∈ chain.inner ++ chain.outer,
    scope.ownRules = [] ∧ scope.plainRules = [] ∧ scope.gitRules = [] ∧ scope.excludeRules = []

theorem IgnoreView.withinRepository_subset (views : List IgnoreView) :
    withinRepository views ⊆ views := by
  rw [withinRepository]
  cases hbehind : views.dropWhile fun view => !view.scope.isRepository with
  | nil => exact List.nil_subset views
  | cons top rest =>
      have htop : top ∈ views.dropWhile fun view => !view.scope.isRepository := by
        rw [hbehind]
        exact List.mem_cons_self
      rw [List.append_subset, List.cons_subset]
      exact ⟨List.takeWhile_subset _, List.dropWhile_subset _ htop, List.nil_subset views⟩

namespace IgnoreChain

variable {snapshot : Snapshot} {chain : IgnoreChain}

theorem ruleless_ofDirectory (hunruled : snapshot.Unruled) (directory : String) :
    let scope := IgnoreScope.ofDirectory snapshot directory
    scope.ownRules = [] ∧ scope.plainRules = [] ∧ scope.gitRules = [] ∧
      scope.excludeRules = [] := by
  have hrules (name : String) (hname : name ∈ IgnoreScope.markers) :
      IgnoreScope.rulesAt snapshot (Path.child directory name) = [] :=
    hunruled.rulesAt_eq_nil hname (IgnoreScope.mem_components_child directory hname)
  exact ⟨hrules ".crestignore" (by decide), hrules ".ignore" (by decide),
    hrules ".gitignore" (by decide), hunruled.excludeRules_eq_nil directory⟩

theorem Ruleless.around (hunruled : snapshot.Unruled) (root : String) (location : List String) :
    Ruleless (around snapshot root location) := by
  intro scope hmem
  rcases List.mem_append.1 hmem with hinner | houter
  · rw [List.mem_singleton.1 hinner]
    exact ruleless_ofDirectory hunruled root
  · obtain ⟨depth, -, rfl⟩ := List.mem_map.1 houter
    exact ruleless_ofDirectory hunruled _

theorem Ruleless.enter (hruleless : chain.Ruleless) (hunruled : snapshot.Unruled)
    (directory : String) :
    Ruleless (chain.enter (IgnoreScope.ofDirectory snapshot directory)) := by
  intro scope hmem
  rcases List.mem_cons.1 hmem with rfl | hbefore
  · exact ruleless_ofDirectory hunruled directory
  · exact hruleless scope hbefore

theorem scope_mem_of_mem_views {path : String} {isDirectory : Bool} {view : IgnoreView}
    (hview : view ∈ chain.views path isDirectory) : view.scope ∈ chain.inner ++ chain.outer := by
  rw [views, List.mem_append] at hview
  rcases hview with hinner | houter
  · obtain ⟨scope, hscope, rfl⟩ := List.mem_map.1 hinner
    exact List.mem_append_left _ hscope
  · obtain ⟨scope, hscope, rfl⟩ := List.mem_map.1 houter
    exact List.mem_append_right _ hscope

/-- Where no rule speaks, only a dot in front hides an entry. -/
theorem Ruleless.isVisible_eq (hruleless : chain.Ruleless) (directory name : String)
    (isDirectory : Bool) :
    chain.isVisible directory name isDirectory = (name.toList.head? != some '.') := by
  have hsilent {rulesOf : IgnoreScope → List IgnoreRule} {views : List IgnoreView}
      (hviews : views ⊆ chain.views (Path.child directory name) isDirectory)
      (hrules : ∀ scope ∈ chain.inner ++ chain.outer, rulesOf scope = []) :
      views.findSome? (·.keeps? rulesOf) = none := by
    rw [List.findSome?_eq_none_iff]
    intro view hview
    rw [IgnoreView.keeps?, hrules view.scope (scope_mem_of_mem_views (hviews hview))]
    rfl
  have hgit := IgnoreView.withinRepository_subset
    (chain.views (Path.child directory name) isDirectory)
  have hkeeps : chain.keeps? (Path.child directory name) isDirectory = none := by
    rw [keeps?, hsilent (List.Subset.refl _) fun scope hmem => (hruleless scope hmem).1,
      hsilent (List.Subset.refl _) fun scope hmem => (hruleless scope hmem).2.1,
      hsilent hgit fun scope hmem => (hruleless scope hmem).2.2.1,
      hsilent hgit fun scope hmem => (hruleless scope hmem).2.2.2]
    rfl
  rw [isVisible, hkeeps]
  rfl

end IgnoreChain

end NamingCheck
