import NamingCheck.Proofs.Snapshot.Listing

/-!
# Listed paths lead to the files that were found

A walk along a path goes on from where the walk along its beginning ends, so the path of an entry is
the walk to its directory and one more step. A listing has opened each directory down to the one
that holds the file, hence has taken all these steps but the last. So the path of a listed file
leads to the file, unless it is too long for a file system call or the last step is one that cannot
be taken: no call is made for the file itself while the listing is made.
-/

namespace NamingCheck

open NamingCheck.Path (IsName)

namespace FileNode

/-- The names that lead anywhere are ones that a file system can hold. -/
def NamesFit (top : FileNode) : Prop :=
  ∀ (location : List String) (node : FileNode), top.at? location = some node →
    ∀ name ∈ location, '\x00' ∉ name.toList ∧ name.utf8ByteSize ≤ Snapshot.maxNameBytes

theorem namesFit_file (content : SourceFile) : (file content).NamesFit := by
  intro location node hat
  cases location with
  | nil => exact List.forall_mem_nil _
  | cons name names => cases hat

theorem namesFit_directory {entries : List (String × FileNode)}
    (hentries : ∀ entry ∈ entries,
      ('\x00' ∉ entry.1.toList ∧ entry.1.utf8ByteSize ≤ Snapshot.maxNameBytes) ∧
        entry.2.NamesFit) : (directory entries).NamesFit := by
  intro location node hat
  cases location with
  | nil => exact List.forall_mem_nil _
  | cons name names =>
      obtain ⟨below, hbelow, hrest⟩ := Option.bind_eq_some_iff.1 hat
      obtain ⟨entry, hfind, rfl⟩ := Option.map_eq_some_iff.1 hbelow
      have hname : entry.1 = name := by
        simpa using List.find?_some hfind
      obtain ⟨hfits, hinside⟩ := hentries entry (List.mem_of_find?_eq_some hfind)
      rw [← hname]
      exact List.forall_mem_cons.2 ⟨hfits, hinside names node hrest⟩

end FileNode

namespace Snapshot

open SourceListing (Leaves shownPath)

/-! ### Walks -/

/-- How many links may still be followed behind the beginning of a way depends on the beginning
alone. -/
theorem walkSteps_append (access : List String → Access) (root : FileNode) (links : Nat)
    (here pending : List String) :
    ∃ left, ∀ more, walkSteps access root links here (pending ++ more) =
      (walkSteps access root links here pending).bind fun between =>
        walkSteps access root left between more := by
  fun_induction walkSteps access root links here pending
  case case1 links here => exact ⟨links, fun more => rfl⟩
  -- The walk ends in an error and so does any longer one.
  case case2 | case3 | case4 | case7 | case8 | case9 =>
    refine ⟨0, fun more => ?_⟩
    rw [List.cons_append, walkSteps]
    simp_all [Except.bind]
  case case10 ih =>
    obtain ⟨left, hleft⟩ := ih
    refine ⟨left, fun more => ?_⟩
    rw [List.cons_append, walkSteps]
    simp_all [List.append_assoc]
  case case5 ih | case6 ih | case11 ih =>
    obtain ⟨left, hleft⟩ := ih
    refine ⟨left, fun more => ?_⟩
    rw [List.cons_append, walkSteps]
    simp_all

/-- A step without a name is taken in a directory and leads nowhere. -/
theorem walkSteps_stay {access : List String → Access} {root : FileNode} {links : Nat}
    {here location : List String} (hwalk : walkSteps access root links here [""] = .ok location) :
    location = here := by
  rw [walkSteps_cons] at hwalk
  cases houtline : root.outlineAt? here with
  | none => simp [houtline] at hwalk
  | some outline => cases outline <;> simp_all [walkSteps, Access.stepFault?]

variable {snapshot : Snapshot}

theorem outlineAt?_directory_of_concat {root : FileNode} {here : List String} {name : String}
    {outline : Outline} (hat : root.outlineAt? (here ++ [name]) = some outline) :
    root.outlineAt? here = some .directory := by
  obtain ⟨node, hnode, -⟩ := Option.map_eq_some_iff.1 hat
  obtain ⟨parent, hparent, hentry⟩ :=
    Option.bind_eq_some_iff.1 ((FileNode.at?_concat root here name).symm.trans hnode)
  rw [FileNode.outlineAt?_of_at? hparent]
  cases parent with
  | directory entries => rfl
  | file | link => cases hentry

/-- One step to an entry that is no link succeeds unless something is in the way. -/
theorem walkSteps_name (hnames : snapshot.root.WellNamed) (hfit : snapshot.root.NamesFit)
    {here : List String} {name : String} {outline : Outline}
    (hat : snapshot.root.outlineAt? (here ++ [name]) = some outline)
    (hlink : ∀ target, outline ≠ .link target) (links : Nat) :
    walkSteps snapshot.access snapshot.root links here [name] =
      match (snapshot.access here).searchFault with
      | some cause => .error cause
      | none => .ok (here ++ [name]) := by
  obtain ⟨node, hnode, -⟩ := Option.map_eq_some_iff.1 hat
  obtain ⟨hempty, hdot, hdots, -⟩ := SourceListing.isName_of_outlineAt? hnames hat
  obtain ⟨-, hshort⟩ :=
    hfit _ _ hnode name (List.mem_append_right here (List.mem_singleton_self name))
  rw [walkSteps_cons, outlineAt?_directory_of_concat hat, hat]
  simp only [Access.stepFault?, beq_eq_false_iff_ne.2 hempty, beq_eq_false_iff_ne.2 hdot,
    beq_eq_false_iff_ne.2 hdots, Bool.or_self, Bool.false_eq_true, if_false,
    if_neg (Nat.not_lt.2 hshort)]
  cases (snapshot.access here).searchFault with
  | some cause => rfl
  | none => simp only [walkSteps]

/-! ### Paths -/

/-- What a path has to be for the steps that it takes to matter. -/
theorem resolve_eq_ok_iff {path : String} {location : List String} :
    snapshot.resolve path = .ok location ↔
      '\x00' ∉ path.toList ∧ isTooLong path = false ∧ path ≠ "" ∧
        walkSteps snapshot.access snapshot.root maxLinks
          (if Path.isAbsolute path then [] else snapshot.workingDirectory) (Path.steps path) =
          .ok location := by
  rw [resolve]
  split_ifs <;> simp_all

theorem resolve_of_isTooLong {path : String} (hlong : isTooLong path = true) :
    ∃ cause, snapshot.resolve path = .error cause := by
  cases hresolve : snapshot.resolve path with
  | error cause => exact ⟨cause, rfl⟩
  | ok location =>
      rw [(resolve_eq_ok_iff.1 hresolve).2.1] at hlong
      cases hlong

/-- The path of an entry is the way to its directory and one step more. -/
theorem resolve_child (hnames : snapshot.root.WellNamed) (hfit : snapshot.root.NamesFit)
    {directory name : String} {here : List String} {outline : Outline}
    (hlocation : snapshot.resolve directory = .ok here)
    (hat : snapshot.root.outlineAt? (here ++ [name]) = some outline)
    (hlink : ∀ target, outline ≠ .link target)
    (hshort : isTooLong (Path.child directory name) = false) :
    snapshot.resolve (Path.child directory name) =
      match (snapshot.access here).searchFault with
      | some cause => .error cause
      | none => .ok (here ++ [name]) := by
  obtain ⟨hnul, -, hdirectory, hwalk⟩ := resolve_eq_ok_iff.1 hlocation
  obtain ⟨node, hnode, -⟩ := Option.map_eq_some_iff.1 hat
  have hname := SourceListing.isName_of_outlineAt? hnames hat
  have hletters : '\x00' ∉ (Path.child directory name).toList := by
    obtain ⟨hbelow, -⟩ :=
      hfit _ _ hnode name (List.mem_append_right here (List.mem_singleton_self name))
    have hseparator : '\x00' ≠ Path.separator := by decide
    rcases Path.toList_child directory name with hchild | hchild <;>
      simp [hchild, hnul, hbelow, hseparator]
  obtain ⟨way, hway, hsteps⟩ := Path.exists_steps_child hdirectory name
  rw [Path.steps_of_notMem hname.2.2.2] at hsteps
  obtain ⟨left, hleft⟩ := walkSteps_append snapshot.access snapshot.root maxLinks
    (if Path.isAbsolute directory then [] else snapshot.workingDirectory) way
  have hreach : walkSteps snapshot.access snapshot.root maxLinks
      (if Path.isAbsolute directory then [] else snapshot.workingDirectory) way = .ok here := by
    rcases hway with hsame | hopen
    · rw [← hsame, hwalk]
    · rw [hopen, hleft] at hwalk
      cases hbetween : walkSteps snapshot.access snapshot.root maxLinks
          (if Path.isAbsolute directory then [] else snapshot.workingDirectory) way with
      | error cause =>
          rw [hbetween] at hwalk
          cases hwalk
      | ok between =>
          rw [hbetween] at hwalk
          rw [walkSteps_stay hwalk]
  rw [resolve, if_neg (by simpa using hletters), if_neg (by simp [hshort]),
    if_neg (by simp [Path.child_ne_empty hdirectory]), Path.isAbsolute_child hdirectory, hsteps,
    hleft, hreach]
  exact walkSteps_name hnames hfit hat hlink left

/-! ### The directory of a listed file -/

theorem exists_file_of_leaves {chain : IgnoreChain} {directory : String}
    {here names : List String} (hleaves : Leaves snapshot chain directory here names) :
    ∃ content, snapshot.root.at? (here ++ names) = some (.file content) := by
  induction hleaves with
  | file hfile _ =>
      obtain ⟨node, hnode, houtline⟩ := Option.map_eq_some_iff.1 hfile
      cases node with
      | file content => exact ⟨content, hnode⟩
      | directory | link => cases houtline
  | inside _ _ _ _ ih =>
      rw [List.append_assoc] at ih
      exact ih

/-- All directories down to the one that holds the file have been opened by their paths, so this one
is found by its path. -/
theorem exists_parent_of_leaves (hnames : snapshot.root.WellNamed)
    (hfit : snapshot.root.NamesFit) {chain : IgnoreChain} {directory : String}
    {here names : List String} (hleaves : Leaves snapshot chain directory here names)
    (hlocation : snapshot.resolve directory = .ok here) :
    ∃ parent above name bytes, names = above ++ [name] ∧
      snapshot.resolve parent = .ok (here ++ above) ∧
      snapshot.root.outlineAt? (here ++ above ++ [name]) = some (.file bytes) ∧
      Path.child directory (Path.join names) = Path.child parent name := by
  induction hleaves with
  | @file chain directory name here bytes hfile _ =>
      exact ⟨directory, [], name, bytes, rfl, by rw [hlocation, List.append_nil],
        by rw [List.append_nil, hfile], by rw [Path.join, String.intercalate_singleton]⟩
  | @inside chain directory step here names hdirectory _ hopens _ ih =>
      have hname := SourceListing.isName_of_outlineAt? hnames hdirectory
      have hlink (target : String) : Outline.directory ≠ .link target := by
        intro heq
        cases heq
      have hinside : snapshot.resolve (Path.child directory step) = .ok (here ++ [step]) := by
        cases hchild : snapshot.resolve (Path.child directory step) with
        | error cause =>
            rw [openFault?, hchild] at hopens
            cases hopens
        | ok location =>
            have hshort := (resolve_eq_ok_iff.1 hchild).2.1
            rw [resolve_child hnames hfit hlocation hdirectory hlink hshort] at hchild
            split at hchild
            · cases hchild
            · exact hchild.symm
      obtain ⟨parent, above, name, bytes, rfl, hparent, hfile, hpath⟩ := ih hinside
      refine ⟨parent, step :: above, name, bytes, rfl, ?_, ?_, ?_⟩
      · rw [hparent, List.append_assoc, List.singleton_append]
      · rw [← hfile, List.append_assoc here [step], List.singleton_append]
      · rw [← hpath, Path.child_child_of_isName directory hname,
          Path.join_cons (List.concat_ne_nil name above)]

/-! ### The path of a listed file -/

/-- What it takes to reach a listed file by its path: the path is not too long, and a step can be
taken in the directory that holds the file. -/
structure Reachable (snapshot : Snapshot) (root : String) (names : List String) : Prop where
  short : isTooLong (shownPath root names) = false
  searchable : ∀ location, snapshot.resolve root = .ok location →
    (snapshot.access (location ++ names.dropLast)).searchFault = none

variable {root : String} {location names : List String}

theorem resolve_shownPath (hnames : snapshot.root.WellNamed) (hfit : snapshot.root.NamesFit)
    {chain : IgnoreChain} (hlocation : snapshot.resolve root = .ok location)
    (hleaves : Leaves snapshot chain root location names)
    (hshort : isTooLong (shownPath root names) = false) :
    snapshot.resolve (shownPath root names) =
      match (snapshot.access (location ++ names.dropLast)).searchFault with
      | some cause => .error cause
      | none => .ok (location ++ names) := by
  obtain ⟨parent, above, name, bytes, rfl, hparent, hfile, hpath⟩ :=
    exists_parent_of_leaves hnames hfit hleaves hlocation
  have hshown : shownPath root (above ++ [name]) = Path.child parent name := by
    rw [← hpath]
    cases above <;> rfl
  rw [hshown] at hshort ⊢
  rw [resolve_child hnames hfit hparent hfile nofun hshort, List.dropLast_concat,
    List.append_assoc]

theorem isFile_of_reachable (hnames : snapshot.root.WellNamed) (hfit : snapshot.root.NamesFit)
    {chain : IgnoreChain} (hlocation : snapshot.resolve root = .ok location)
    (hleaves : Leaves snapshot chain root location names)
    (hreachable : snapshot.Reachable root names) :
    snapshot.isFile (shownPath root names) = true := by
  obtain ⟨content, hcontent⟩ := exists_file_of_leaves hleaves
  rw [isFile, nodeAt, resolve_shownPath hnames hfit hlocation hleaves hreachable.short,
    hreachable.searchable location hlocation]
  simp only [bind, Except.bind, hcontent]

theorem exists_nodeAt_eq_error_of_not_reachable (hnames : snapshot.root.WellNamed)
    (hfit : snapshot.root.NamesFit) {chain : IgnoreChain}
    (hlocation : snapshot.resolve root = .ok location)
    (hleaves : Leaves snapshot chain root location names)
    (hhidden : ¬snapshot.Reachable root names) :
    ∃ cause, snapshot.nodeAt (shownPath root names) = .error cause := by
  have hfails : ∃ cause, snapshot.resolve (shownPath root names) = .error cause := by
    cases hlong : isTooLong (shownPath root names) with
    | true => exact resolve_of_isTooLong hlong
    | false =>
        rw [resolve_shownPath hnames hfit hlocation hleaves hlong]
        cases hsearch : (snapshot.access (location ++ names.dropLast)).searchFault with
        | some cause => exact ⟨cause, rfl⟩
        | none =>
            refine absurd ⟨hlong, fun other hother => ?_⟩ hhidden
            cases hlocation.symm.trans hother
            exact hsearch
  obtain ⟨cause, hcause⟩ := hfails
  rw [nodeAt, hcause]
  exact ⟨cause, rfl⟩

end Snapshot

end NamingCheck
