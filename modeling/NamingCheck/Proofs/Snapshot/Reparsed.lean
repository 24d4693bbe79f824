import NamingCheck.Proofs.Run.Plan
import NamingCheck.Proofs.Snapshot.LooksLike

/-!
# Syntax trees are not looked at before files are checked

The same files may come with any other syntax trees: the snapshot looks as before, and so a run
plans to check the same files or refuses for the same reason.
-/

namespace NamingCheck

/-! ### The same files with other trees -/

def SourceFile.reparsed (parse : SourceFile → SyntaxNode) (content : SourceFile) : SourceFile :=
  { content with tree := parse content }

namespace FileNode

def reparsed (parse : SourceFile → SyntaxNode) : FileNode → FileNode
  | file content => file (content.reparsed parse)
  | directory entries => directory (reparsedEntries entries)
  | link target => link target
where
  reparsedEntries : List (String × FileNode) → List (String × FileNode)
    | [] => []
    | (name, node) :: rest => (name, reparsed parse node) :: reparsedEntries rest

variable (parse : SourceFile → SyntaxNode)

theorem reparsedEntries_eq_map (entries : List (String × FileNode)) :
    reparsed.reparsedEntries parse entries =
      entries.map fun entry => (entry.1, entry.2.reparsed parse) := by
  induction entries with
  | nil => rfl
  | cons entry rest ih => rw [reparsed.reparsedEntries, ih, List.map_cons]

@[simp]
theorem outline_reparsed (node : FileNode) : (node.reparsed parse).outline = node.outline := by
  cases node <;> rfl

theorem entries_reparsed (node : FileNode) :
    (node.reparsed parse).entries =
      node.entries.map fun entry => (entry.1, entry.2.reparsed parse) := by
  cases node with
  | directory entries => exact reparsedEntries_eq_map parse entries
  | _ => rfl

@[simp]
theorem entry?_reparsed (node : FileNode) (name : String) :
    FileNode.entry? (node.reparsed parse) name = (node.entry? name).map (reparsed parse) := by
  unfold entry?
  rw [entries_reparsed, List.find?_map, Option.map_map, Option.map_map]
  rfl

@[simp]
theorem at?_reparsed (node : FileNode) (location : List String) :
    (node.reparsed parse).at? location = (node.at? location).map (reparsed parse) := by
  induction location generalizing node with
  | nil => rfl
  | cons name names ih =>
      rw [at?, at?, entry?_reparsed, Option.bind_map, Option.map_bind]
      exact congrArg _ (funext ih)

end FileNode

section

variable (parse : SourceFile → SyntaxNode) (snapshot : Snapshot)

def Snapshot.reparsed : Snapshot :=
  { snapshot with root := snapshot.root.reparsed parse }

theorem Snapshot.looksLike_reparsed : (snapshot.reparsed parse).LooksLike snapshot where
  workingDirectory_eq := rfl
  access_eq := rfl
  outlineAt?_eq location := by
    rw [reparsed, FileNode.outlineAt?, FileNode.at?_reparsed, Option.map_map]
    simp only [Function.comp_def, FileNode.outline_reparsed, FileNode.outlineAt?]

/-! ### The same files are listed -/

theorem SourceListing.findings_reparsed (chain : IgnoreChain) (directory : String)
    (below : List String) (entries : List (String × FileNode)) :
    findings (snapshot.reparsed parse) chain directory below
        (FileNode.reparsed.reparsedEntries parse entries) =
      findings snapshot chain directory below entries := by
  fun_induction findings snapshot chain directory below entries with
  | case1 => rw [FileNode.reparsed.reparsedEntries, findings]
  | case2 chain directory below name content rest ih =>
      rw [FileNode.reparsed.reparsedEntries, FileNode.reparsed, findings, ih]
  | case3 chain directory below name entries rest inside hinside hrest =>
      rw [FileNode.reparsed.reparsedEntries, FileNode.reparsed, findings, hrest,
        IgnoreScope.ofDirectory_of_looksLike (snapshot.looksLike_reparsed parse), hinside,
        (snapshot.looksLike_reparsed parse).openFault?_eq]
  | case4 chain directory below name target rest ih =>
      rw [FileNode.reparsed.reparsedEntries, FileNode.reparsed, findings, ih]

namespace Snapshot

theorem findings_reparsed (root : String) :
    (snapshot.reparsed parse).findings root = snapshot.findings root := by
  have hlike := snapshot.looksLike_reparsed parse
  have hat (location : List String) : (snapshot.reparsed parse).root.at? location =
      (snapshot.root.at? location).map (FileNode.reparsed parse) :=
    FileNode.at?_reparsed parse snapshot.root location
  rw [findings, findings, hlike.resolve_eq, hlike.openFault?_eq]
  cases snapshot.resolve root with
  | error cause => rfl
  | ok location =>
      simp only [hat]
      cases snapshot.root.at? location with
      | none => rfl
      | some node =>
          cases node with
          | file | link => rfl
          | directory entries =>
              cases snapshot.openFault? root with
              | some cause => rfl
              | none =>
                  simp only [Option.map_some, FileNode.reparsed, SourceListing.ofDirectory]
                  rw [← IgnoreChain.around_of_looksLike hlike]
                  exact SourceListing.findings_reparsed parse snapshot _ root [] entries

theorem sources_reparsed (root : String) (exclude : PatternSet) :
    (snapshot.reparsed parse).sources root exclude = snapshot.sources root exclude := by
  rw [sources, sources, (snapshot.looksLike_reparsed parse).isFile_eq, findings_reparsed]

theorem closedDirectories_reparsed (root : String) :
    (snapshot.reparsed parse).closedDirectories root = snapshot.closedDirectories root := by
  rw [closedDirectories, closedDirectories, findings_reparsed]

end Snapshot

namespace Run

theorem planEvents_reparsed (settings : Settings) (paths : List String) :
    planEvents settings (snapshot.reparsed parse) paths = planEvents settings snapshot paths := by
  have hlike := snapshot.looksLike_reparsed parse
  simp only [planEvents, hlike.isDirectory_eq, hlike.isFile_eq,
    Snapshot.closedDirectories_reparsed]

/-- What a run sets out to check, or why it does not start, is settled before any file is parsed. -/
theorem plan_reparsed (settings : Settings) (paths : List String) :
    plan settings (snapshot.reparsed parse) paths = plan settings snapshot paths := by
  have hexpand (exclude : PatternSet) :
      expandPath (snapshot.reparsed parse) exclude = expandPath snapshot exclude := by
    have hlike := snapshot.looksLike_reparsed parse
    funext path
    rw [expandPath, expandPath, hlike.isDirectory_eq, hlike.isFile_eq, Snapshot.sources_reparsed]
  simp only [plan, expandPaths, hexpand]

end Run

end

end NamingCheck
