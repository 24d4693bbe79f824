import Mathlib.Data.List.Nodup
import NamingCheck.Proofs.Snapshot.WellNamed
import NamingCheck.SourceListing

/-!
# The files that the ignore rules leave

`Leaves` says of a file that nothing hides it, by following the names that lead to it. A walk
through a directory finds just these files, each once, in whatever order the entries come.
-/

namespace NamingCheck

open NamingCheck.Path (IsName)

namespace SourceListing

/-- The ignore rules leave the file to which the names lead from a directory: neither the file nor a
directory on the way is hidden, and each directory can be opened. The directory they lead from is
given by the ignore rules that hold in it, its path and its location. -/
inductive Leaves (snapshot : Snapshot) : IgnoreChain → String → List String → List String → Prop
  | file {chain : IgnoreChain} {directory name : String} {here : List String} {bytes : ByteArray}
      (hfile : snapshot.root.outlineAt? (here ++ [name]) = some (.file bytes))
      (hvisible : chain.isVisible directory name false = true) :
      Leaves snapshot chain directory here [name]
  | inside {chain : IgnoreChain} {directory name : String} {here names : List String}
      (hdirectory : snapshot.root.outlineAt? (here ++ [name]) = some .directory)
      (hvisible : chain.isVisible directory name true = true)
      (hopens : snapshot.openFault? (Path.child directory name) = none)
      (hleaves : Leaves snapshot
        (chain.enter (IgnoreScope.ofDirectory snapshot (Path.child directory name)))
        (Path.child directory name) (here ++ [name]) names) :
      Leaves snapshot chain directory here (name :: names)

variable {snapshot : Snapshot} {chain : IgnoreChain} {directory name : String}
  {here names : List String}

theorem Leaves.of_looksLike {other : Snapshot} (hlike : snapshot.LooksLike other)
    (hleaves : Leaves snapshot chain directory here names) :
    Leaves other chain directory here names := by
  induction hleaves with
  | file hfile hvisible => exact .file (hlike.outlineAt?_eq _ ▸ hfile) hvisible
  | inside hdirectory hvisible hopens _ ih =>
      refine .inside (hlike.outlineAt?_eq _ ▸ hdirectory) hvisible
        (hlike.openFault?_eq _ ▸ hopens) ?_
      rwa [IgnoreScope.ofDirectory_of_looksLike hlike] at ih

theorem isName_of_outlineAt? (hroot : snapshot.root.WellNamed) {outline : Outline}
    (hat : snapshot.root.outlineAt? (here ++ [name]) = some outline) : IsName name := by
  obtain ⟨node, hnode, -⟩ := Option.map_eq_some_iff.1 hat
  exact (hroot.of_at? hnode).1 name (List.mem_append_right here (List.mem_singleton_self name))

theorem Leaves.isName (hroot : snapshot.root.WellNamed)
    (hleaves : Leaves snapshot chain directory here names) : ∀ name ∈ names, IsName name := by
  induction hleaves with
  | file hfile _ => exact List.forall_mem_singleton.2 (isName_of_outlineAt? hroot hfile)
  | inside hdirectory _ _ _ ih =>
      exact List.forall_mem_cons.2 ⟨isName_of_outlineAt? hroot hdirectory, ih⟩

/-! ### What a name leads to -/

theorem leaves_file_iff {content : SourceFile}
    (hat : snapshot.root.at? (here ++ [name]) = some (.file content)) :
    Leaves snapshot chain directory here (name :: names) ↔
      names = [] ∧ chain.isVisible directory name false = true := by
  have houtline : snapshot.root.outlineAt? (here ++ [name]) = some (.file content.bytes) :=
    FileNode.outlineAt?_of_at? hat
  constructor
  · intro hleaves
    cases hleaves with
    | file _ hvisible => exact ⟨rfl, hvisible⟩
    | inside hdirectory =>
        rw [houtline] at hdirectory
        cases hdirectory
  · rintro ⟨rfl, hvisible⟩
    exact .file houtline hvisible

theorem leaves_directory_iff {entries : List (String × FileNode)}
    (hat : snapshot.root.at? (here ++ [name]) = some (.directory entries)) :
    Leaves snapshot chain directory here (name :: names) ↔
      chain.isVisible directory name true = true ∧
        snapshot.openFault? (Path.child directory name) = none ∧
        Leaves snapshot
          (chain.enter (IgnoreScope.ofDirectory snapshot (Path.child directory name)))
          (Path.child directory name) (here ++ [name]) names := by
  have houtline : snapshot.root.outlineAt? (here ++ [name]) = some .directory :=
    FileNode.outlineAt?_of_at? hat
  constructor
  · intro hleaves
    cases hleaves with
    | file hfile =>
        rw [houtline] at hfile
        cases hfile
    | inside _ hvisible hopens hleaves => exact ⟨hvisible, hopens, hleaves⟩
  · rintro ⟨hvisible, hopens, hleaves⟩
    exact .inside houtline hvisible hopens hleaves

theorem not_leaves_link {target : String}
    (hat : snapshot.root.at? (here ++ [name]) = some (.link target)) :
    ¬Leaves snapshot chain directory here (name :: names) := by
  have houtline : snapshot.root.outlineAt? (here ++ [name]) = some (.link target) :=
    FileNode.outlineAt?_of_at? hat
  intro hleaves
  cases hleaves with
  | file hother | inside hother =>
      rw [houtline] at hother
      cases hother

/-- Only what is there is left, so the first name is that of an entry. -/
theorem Leaves.exists_entry (hleaves : Leaves snapshot chain directory here names) :
    ∃ entries, snapshot.root.at? here = some (.directory entries) ∧
      ∃ first ∈ entries.map Prod.fst, ∃ rest, names = first :: rest := by
  have hentry {first : String} {outline : Outline} (rest : List String)
      (hfirst : snapshot.root.outlineAt? (here ++ [first]) = some outline) :
      ∃ entries, snapshot.root.at? here = some (.directory entries) ∧
        ∃ name ∈ entries.map Prod.fst, ∃ others, first :: rest = name :: others := by
    obtain ⟨node, hnode, -⟩ := Option.map_eq_some_iff.1 hfirst
    rw [FileNode.at?_concat] at hnode
    obtain ⟨parent, hparent, hbelow⟩ := Option.bind_eq_some_iff.1 hnode
    obtain ⟨entry, hfound, -⟩ := Option.map_eq_some_iff.1 hbelow
    have hname : entry.1 = first := by
      simpa using List.find?_some hfound
    cases parent with
    | file | link => cases hfound
    | directory entries =>
        have hmem := List.mem_map_of_mem (f := Prod.fst) (List.mem_of_find?_eq_some hfound)
        exact ⟨entries, hparent, first, hname ▸ hmem, rest, rfl⟩
  cases hleaves with
  | file hfile => exact hentry [] hfile
  | inside hdirectory => exact hentry _ hdirectory

/-! ### The walk -/

/-- Entries of the directory at a location. -/
def ListedAt (snapshot : Snapshot) (here : List String) (entries : List (String × FileNode)) :
    Prop :=
  ∀ entry ∈ entries, snapshot.root.at? (here ++ [entry.1]) = some entry.2

theorem ListedAt.of_at? {entries : List (String × FileNode)} (hroot : snapshot.root.WellNamed)
    (hat : snapshot.root.at? here = some (.directory entries)) :
    ListedAt snapshot here entries := by
  intro entry hmem
  cases (hroot.of_at? hat).2 with
  | directory _ hnodup _ =>
      rw [FileNode.at?_concat, hat, Option.bind_some]
      exact (FileNode.entry?_eq_some_iff hnodup).2 hmem

theorem ListedAt.of_cons {entry : String × FileNode} {rest : List (String × FileNode)}
    (hlisted : ListedAt snapshot here (entry :: rest)) :
    snapshot.root.at? (here ++ [entry.1]) = some entry.2 ∧ ListedAt snapshot here rest :=
  List.forall_mem_cons.1 hlisted

theorem file_mem_findings_iff {entries : List (String × FileNode)} {below found : List String}
    (hroot : snapshot.root.WellNamed) (hlisted : ListedAt snapshot here entries) :
    .file found ∈ findings snapshot chain directory below entries ↔
      ∃ first ∈ entries.map Prod.fst, ∃ rest, found = below ++ first :: rest ∧
        Leaves snapshot chain directory here (first :: rest) := by
  fun_induction findings snapshot chain directory below entries generalizing here
  case case1 => simp
  case case2 chain directory below name content rest ih =>
    obtain ⟨hat, hrest⟩ := hlisted.of_cons
    rw [List.mem_append, List.map_cons, List.exists_mem_cons_iff, ih hrest]
    refine or_congr_left ?_
    simp only [leaves_file_iff hat]
    split_ifs with hvisible <;> simp [hvisible]
  case case3 chain directory below name entries rest inside hinside ih =>
    obtain ⟨hat, hrest⟩ := hlisted.of_cons
    have hentries := ListedAt.of_at? hroot hat
    rw [List.mem_append, List.map_cons, List.exists_mem_cons_iff, ih hrest]
    refine or_congr_left ?_
    simp only [leaves_directory_iff hat]
    by_cases hvisible : chain.isVisible directory name true = true
    · rw [if_neg (by simp [hvisible])]
      cases snapshot.openFault? inside with
      | some cause => simp
      | none =>
          rw [hinside hentries]
          constructor
          · rintro ⟨first, -, rest, rfl, hleaves⟩
            exact ⟨first :: rest, (List.append_cons below name _).symm, hvisible, rfl, hleaves⟩
          · rintro ⟨names, rfl, -, -, hleaves⟩
            obtain ⟨others, hothers, first, hfirst, rest, rfl⟩ := hleaves.exists_entry
            cases hat.symm.trans hothers
            exact ⟨first, hfirst, rest, List.append_cons below name _, hleaves⟩
    · simp [hvisible]
  case case4 chain directory below name target rest ih =>
    obtain ⟨hat, hrest⟩ := hlisted.of_cons
    rw [List.map_cons, List.exists_mem_cons_iff, ih hrest]
    simp only [not_leaves_link hat, and_false, exists_false, false_or]

theorem mem_filterMap_file?_iff {found : List String} {findings : List Finding} :
    found ∈ findings.filterMap (·.file?) ↔ .file found ∈ findings := by
  rw [List.mem_filterMap]
  constructor
  · rintro ⟨finding, hmem, hfile⟩
    cases finding with
    | file names =>
        cases hfile
        exact hmem
    | closed path cause => cases hfile
  · intro hmem
    exact ⟨.file found, hmem, rfl⟩

theorem nodup_files {entries : List (String × FileNode)} {below : List String}
    (hroot : snapshot.root.WellNamed) (hlisted : ListedAt snapshot here entries)
    (hnodup : (entries.map Prod.fst).Nodup) :
    ((findings snapshot chain directory below entries).filterMap (·.file?)).Nodup := by
  -- The files of one entry all go by its name, so those of the entries behind it are others.
  have happend {name : String} {rest : List (String × FileNode)} {own : List Finding}
      {chain : IgnoreChain} {directory : String} {here below : List String}
      (hown : (own.filterMap (·.file?)).Nodup)
      (hnamed : ∀ found, .file found ∈ own → ∃ inner, found = below ++ name :: inner)
      (hrest : ((findings snapshot chain directory below rest).filterMap (·.file?)).Nodup)
      (hother : ListedAt snapshot here rest) (hname : name ∉ rest.map Prod.fst) :
      ((own ++ findings snapshot chain directory below rest).filterMap (·.file?)).Nodup := by
    rw [List.filterMap_append, List.nodup_append]
    refine ⟨hown, hrest, ?_⟩
    rintro found hfound _ hbehind rfl
    obtain ⟨inner, rfl⟩ := hnamed found (mem_filterMap_file?_iff.1 hfound)
    obtain ⟨first, hfirst, rest, heq, -⟩ :=
      (file_mem_findings_iff hroot hother).1 (mem_filterMap_file?_iff.1 hbehind)
    cases List.append_cancel_left heq
    exact hname hfirst
  fun_induction findings snapshot chain directory below entries generalizing here
  case case1 => exact List.nodup_nil
  case case2 chain directory below name content rest ih =>
    obtain ⟨-, hrest⟩ := hlisted.of_cons
    obtain ⟨hname, hothers⟩ := List.nodup_cons.1 hnodup
    refine happend ?_ (fun found hfound => ?_) (ih hrest hothers) hrest hname
    · split_ifs
      · exact List.nodup_singleton _
      · exact List.nodup_nil
    · split_ifs at hfound
      · cases List.mem_singleton.1 hfound
        exact ⟨[], rfl⟩
      · cases hfound
  case case3 chain directory below name entries rest inside hinside ih =>
    obtain ⟨hat, hrest⟩ := hlisted.of_cons
    obtain ⟨hname, hothers⟩ := List.nodup_cons.1 hnodup
    have hentries := ListedAt.of_at? hroot hat
    have hdistinct : (entries.map Prod.fst).Nodup := (hroot.of_at? hat).2.of_entries.2.1
    refine happend ?_ (fun found hfound => ?_) (ih hrest hothers) hrest hname
    · split
      · exact List.nodup_nil
      · split
        · exact List.nodup_nil
        · exact hinside hentries hdistinct
    · split at hfound
      · cases hfound
      · split at hfound
        · cases List.mem_singleton.1 hfound
        · obtain ⟨first, -, inner, rfl, -⟩ := (file_mem_findings_iff hroot hentries).1 hfound
          exact ⟨first :: inner, (List.append_cons below name _).symm⟩
  case case4 chain directory below name target rest ih =>
    exact ih hlisted.of_cons.2 (List.nodup_cons.1 hnodup).2

end SourceListing

namespace Snapshot

open SourceListing (Leaves)

/-- The files below a root that is a directory, as the names that lead to them. -/
def filesBelow (snapshot : Snapshot) (root : String) : List (List String) :=
  (snapshot.findings root).filterMap (·.file?)

theorem findings_of_resolve {snapshot : Snapshot} {root : String} {location : List String}
    {entries : List (String × FileNode)} (hlocation : snapshot.resolve root = .ok location)
    (hat : snapshot.root.at? location = some (.directory entries)) :
    snapshot.findings root =
      match snapshot.openFault? root with
      | some cause => [.closed root cause]
      | none => SourceListing.ofDirectory snapshot root location entries := by
  rw [findings, hlocation]
  simp only [hat]
  cases snapshot.openFault? root <;> rfl

theorem exists_directory_of_mem_findings {snapshot : Snapshot} {root : String}
    {finding : SourceListing.Finding} (hmem : finding ∈ snapshot.findings root) :
    ∃ location entries, snapshot.resolve root = .ok location ∧
      snapshot.root.at? location = some (.directory entries) := by
  rw [findings] at hmem
  cases hlocation : snapshot.resolve root with
  | error cause =>
      rw [hlocation] at hmem
      cases hmem
  | ok location =>
      rw [hlocation] at hmem
      cases hat : snapshot.root.at? location with
      | none =>
          simp only [hat] at hmem
          cases hmem
      | some node =>
          simp only [hat] at hmem
          cases node with
          | directory entries => exact ⟨location, entries, rfl, hat⟩
          | file | link => cases hmem

theorem mem_filesBelow_iff {snapshot : Snapshot} (hroot : snapshot.root.WellNamed) (root : String)
    (names : List String) :
    names ∈ snapshot.filesBelow root ↔
      ∃ location, snapshot.resolve root = .ok location ∧ snapshot.openFault? root = none ∧
        Leaves snapshot (IgnoreChain.around snapshot root location) root location names := by
  rw [filesBelow, SourceListing.mem_filterMap_file?_iff]
  constructor
  · intro hmem
    obtain ⟨location, entries, hlocation, hat⟩ := exists_directory_of_mem_findings hmem
    rw [findings_of_resolve hlocation hat] at hmem
    split at hmem
    · cases List.mem_singleton.1 hmem
    · next hopens =>
        have hlisted := SourceListing.ListedAt.of_at? hroot hat
        obtain ⟨first, -, rest, rfl, hleaves⟩ :=
          (SourceListing.file_mem_findings_iff hroot hlisted).1 hmem
        exact ⟨location, hlocation, hopens, hleaves⟩
  · rintro ⟨location, hlocation, hopens, hleaves⟩
    obtain ⟨entries, hat, first, hfirst, rest, rfl⟩ := hleaves.exists_entry
    have hlisted := SourceListing.ListedAt.of_at? hroot hat
    rw [findings_of_resolve hlocation hat, hopens]
    exact (SourceListing.file_mem_findings_iff hroot hlisted).2 ⟨first, hfirst, rest, rfl, hleaves⟩

theorem nodup_filesBelow {snapshot : Snapshot} (hroot : snapshot.root.WellNamed) (root : String) :
    (snapshot.filesBelow root).Nodup := by
  rw [filesBelow]
  cases hfindings : snapshot.findings root with
  | nil => exact List.nodup_nil
  | cons first rest =>
      have hfirst : first ∈ snapshot.findings root := by
        rw [hfindings]
        exact List.mem_cons_self
      obtain ⟨location, entries, hlocation, hat⟩ := exists_directory_of_mem_findings hfirst
      rw [← hfindings, findings_of_resolve hlocation hat]
      split
      · exact List.nodup_nil
      · exact SourceListing.nodup_files hroot (SourceListing.ListedAt.of_at? hroot hat)
          (hroot.of_at? hat).2.of_entries.2.1

/-- The order in which directories list their entries does not change what is found. -/
theorem perm_filesBelow {left right : Snapshot} (hlike : left.LooksLike right)
    (hleft : left.root.WellNamed) (hright : right.root.WellNamed) (root : String) :
    (left.filesBelow root).Perm (right.filesBelow root) := by
  refine (List.perm_ext_iff_of_nodup (nodup_filesBelow hleft root)
    (nodup_filesBelow hright root)).2 fun names => ?_
  rw [mem_filesBelow_iff hleft, mem_filesBelow_iff hright, hlike.resolve_eq, hlike.openFault?_eq]
  refine exists_congr fun location => and_congr_right fun _ => and_congr_right fun _ => ?_
  rw [IgnoreChain.around_of_looksLike hlike]
  exact ⟨.of_looksLike hlike, .of_looksLike hlike.symm⟩

end Snapshot

end NamingCheck
