import Mathlib.Data.List.Nodup
import NamingCheck.Proofs.Path.Components
import NamingCheck.Proofs.Snapshot.LooksLike
import NamingCheck.Snapshot.Document

/-!
# The names in a snapshot

In a directory of a file system every entry has a name, and no two have the same. A snapshot that is
read from a document is of this kind, whatever the document says: entries are put under steps of
paths, and one at a time.
-/

namespace NamingCheck

open NamingCheck.Path (IsName)

namespace FileNode

/-- In every directory the entries have names, each its own. -/
inductive WellNamed : FileNode → Prop
  | file (content : SourceFile) : WellNamed (file content)
  | link (target : String) : WellNamed (link target)
  | directory {entries : List (String × FileNode)}
      (hnames : ∀ entry ∈ entries, IsName entry.1) (hnodup : (entries.map Prod.fst).Nodup)
      (hbelow : ∀ entry ∈ entries, WellNamed entry.2) : WellNamed (directory entries)

/-! ### Looking up names -/

variable {entries : List (String × FileNode)} {name : String} {node below top : FileNode}

theorem entry?_eq_some_iff (hnodup : (entries.map Prod.fst).Nodup) :
    entry? (directory entries) name = some node ↔ (name, node) ∈ entries := by
  rw [ entry?, FileNode.entries, Option.map_eq_some_iff]
  constructor
  · rintro ⟨⟨other, found⟩, hfind, rfl⟩
    have hname : other = name := by
      simpa using List.find?_some hfind
    exact hname ▸ List.mem_of_find?_eq_some hfind
  · intro hmem
    have hfirst : ∃ entry, entries.find? (fun entry => entry.1 == name) = some entry := by
      rw [← Option.isSome_iff_exists, List.find?_isSome]
      exact ⟨(name, node), hmem, beq_self_eq_true name⟩
    obtain ⟨entry, hentry⟩ := hfirst
    have hname : entry.1 = name := by
      simpa using List.find?_some hentry
    have hsame : entry = (name, node) :=
      List.inj_on_of_nodup_map hnodup (List.mem_of_find?_eq_some hentry) hmem hname
    exact ⟨entry, hentry, congrArg Prod.snd hsame⟩

theorem WellNamed.of_lookup (hnode : node.WellNamed) (hentry : node.entry? name = some below) :
    IsName name ∧ below.WellNamed := by
  cases hnode with
  | file | link => cases hentry
  | directory hnames hnodup hbelow =>
      have hmem := (entry?_eq_some_iff hnodup).1 hentry
      exact ⟨hnames _ hmem, hbelow _ hmem⟩

theorem WellNamed.of_at? {location : List String} (hnode : node.WellNamed)
    (hat : node.at? location = some below) :
    (∀ name ∈ location, IsName name) ∧ below.WellNamed := by
  induction location generalizing node with
  | nil =>
      cases hat
      exact ⟨List.forall_mem_nil _, hnode⟩
  | cons name names ih =>
      obtain ⟨entry, hentry, hbelow⟩ := Option.bind_eq_some_iff.1 hat
      obtain ⟨hname, hwell⟩ := hnode.of_lookup hentry
      obtain ⟨hnames, hlast⟩ := ih hwell hbelow
      exact ⟨List.forall_mem_cons.2 ⟨hname, hnames⟩, hlast⟩

/-! ### The order of entries -/

/-- The same entries, where any directory may list its own in another order. -/
inductive Reordered : FileNode → FileNode → Prop
  | refl (node : FileNode) : Reordered node node
  | perm {left right : List (String × FileNode)} (hperm : left.Perm right) :
      Reordered (directory left) (directory right)
  | inside {before after : List (String × FileNode)} {name : String} {left right : FileNode}
      (hbelow : Reordered left right) :
      Reordered (directory (before ++ (name, left) :: after))
        (directory (before ++ (name, right) :: after))
  | trans {first middle last : FileNode} (hfirst : Reordered first middle)
      (hlast : Reordered middle last) : Reordered first last

theorem entry?_append_cons (before after : List (String × FileNode)) (step : String) :
    entry? (directory (before ++ (name, node) :: after)) step =
      (FileNode.entry? (directory before) step).or
        (if name = step then some node else entry? (directory after) step) := by
  simp only [ entry?, FileNode.entries, List.find?_append, Option.map_or, List.find?_cons]
  by_cases hname : name = step
  · simp [hname]
  · rw [if_neg hname, beq_eq_false_iff_ne.2 hname]

theorem Reordered.wellNamed {left right : FileNode} (hreordered : Reordered left right)
    (hleft : left.WellNamed) : right.WellNamed := by
  induction hreordered with
  | refl => exact hleft
  | trans _ _ hfirst hlast => exact hlast (hfirst hleft)
  | perm hperm =>
      cases hleft with
      | directory hnames hnodup hbelow =>
          exact .directory (fun entry hmem => hnames entry (hperm.mem_iff.2 hmem))
            ((hperm.map Prod.fst).nodup_iff.1 hnodup)
            fun entry hmem => hbelow entry (hperm.mem_iff.2 hmem)
  | inside _ ih =>
      cases hleft with
      | directory hnames hnodup hbelow =>
          rw [List.forall_mem_append, List.forall_mem_cons] at hnames hbelow
          rw [List.map_append, List.map_cons] at hnodup
          refine .directory ?_ ?_ ?_
          · exact List.forall_mem_append.2 ⟨hnames.1, List.forall_mem_cons.2 hnames.2⟩
          · rwa [List.map_append, List.map_cons]
          · exact List.forall_mem_append.2
              ⟨hbelow.1, List.forall_mem_cons.2 ⟨ih hbelow.2.1, hbelow.2.2⟩⟩

theorem entry?_eq_of_perm {others : List (String × FileNode)} (hperm : entries.Perm others)
    (hnodup : (entries.map Prod.fst).Nodup) (step : String) :
    entry? (directory entries) step = entry? (directory others) step := by
  have hothers : (others.map Prod.fst).Nodup := (hperm.map Prod.fst).nodup_iff.1 hnodup
  refine Option.ext fun node => ?_
  rw [ entry?_eq_some_iff hnodup, entry?_eq_some_iff hothers, hperm.mem_iff]

/-- What shows at a location does not depend on the order of entries. -/
theorem Reordered.outlineAt?_eq {left right : FileNode} (hreordered : Reordered left right)
    (hleft : left.WellNamed) (location : List String) :
    left.outlineAt? location = right.outlineAt? location := by
  induction hreordered generalizing location with
  | refl => rfl
  | trans hmiddle _ hfirst hlast =>
      exact (hfirst hleft location).trans (hlast (hmiddle.wellNamed hleft) location)
  | perm hperm =>
      cases hleft with
      | directory _ hnodup _ =>
          cases location with
          | nil => rfl
          | cons step steps =>
              rw [outlineAt?, at?, entry?_eq_of_perm hperm hnodup, outlineAt?, at?]
  | @inside before after name left right _ ih =>
      cases hleft with
      | directory _ _ hall =>
          have hbelow := ih (hall _ (List.mem_append_right before List.mem_cons_self))
          cases location with
          | nil => rfl
          | cons step steps =>
              simp only [outlineAt?, at?, entry?_append_cons] at hbelow ⊢
              -- The entry found stands before the one that differs, or it is that one, or neither.
              cases entry? (directory before) step with
              | some entry => rfl
              | none =>
                  by_cases hname : name = step
                  · simp only [if_pos hname, Option.none_or, Option.bind_some, hbelow]
                  · simp only [if_neg hname]

/-! ### Putting entries in -/

theorem map_fst_replaceEntry (entries : List (String × FileNode)) (name : String)
    (node : FileNode) :
    (replaceEntry entries name node).map Prod.fst =
      if name ∈ entries.map Prod.fst then entries.map Prod.fst
      else entries.map Prod.fst ++ [name] := by
  induction entries with
  | nil => rfl
  | cons first rest ih =>
      rw [replaceEntry]
      by_cases hfirst : first.1 = name
      · simp [hfirst]
      · have hother : name ≠ first.1 := Ne.symm hfirst
        rw [if_neg (by simpa using hfirst), List.map_cons, ih, List.map_cons]
        simp only [List.mem_cons, hother, false_or]
        split_ifs <;> rfl

theorem mem_replaceEntry {entry : String × FileNode}
    (hmem : entry ∈ replaceEntry entries name node) : entry = (name, node) ∨ entry ∈ entries := by
  induction entries with
  | nil => exact Or.inl (List.mem_singleton.1 hmem)
  | cons first rest ih =>
      rw [replaceEntry] at hmem
      split_ifs at hmem
      · exact (List.mem_cons.1 hmem).imp_right (List.mem_cons_of_mem first)
      · rcases List.mem_cons.1 hmem with rfl | hrest
        · exact Or.inr List.mem_cons_self
        · exact (ih hrest).imp_right (List.mem_cons_of_mem first)

/-- What is no directory holds nothing, so only the names in a directory matter. -/
theorem WellNamed.of_entries (hnode : node.WellNamed) :
    (∀ entry ∈ node.entries, IsName entry.1) ∧ (node.entries.map Prod.fst).Nodup ∧
      ∀ entry ∈ node.entries, entry.2.WellNamed := by
  cases hnode with
  | file | link => exact ⟨List.forall_mem_nil _, List.nodup_nil, List.forall_mem_nil _⟩
  | directory hnames hnodup hbelow => exact ⟨hnames, hnodup, hbelow⟩

theorem WellNamed.nothing : (FileNode.directory []).WellNamed :=
  .directory (List.forall_mem_nil _) List.nodup_nil (List.forall_mem_nil _)

theorem WellNamed.replaceEntry (htop : top.WellNamed) (hname : IsName name)
    (hnode : node.WellNamed) :
    (FileNode.directory (FileNode.replaceEntry top.entries name node)).WellNamed := by
  obtain ⟨hnames, hnodup, hbelow⟩ := htop.of_entries
  refine .directory (fun entry hmem => ?_) ?_ fun entry hmem => ?_
  · rcases mem_replaceEntry hmem with rfl | hold
    · exact hname
    · exact hnames entry hold
  · rw [map_fst_replaceEntry]
    split_ifs with hold
    · exact hnodup
    · exact List.nodup_append.2 ⟨hnodup, List.nodup_singleton name, by
        intro other hother last hlast heq
        rw [List.mem_singleton.1 hlast] at heq
        exact hold (heq ▸ hother)⟩
  · rcases mem_replaceEntry hmem with rfl | hold
    · exact hnode
    · exact hbelow entry hold

theorem WellNamed.put {location : List String} (htop : top.WellNamed)
    (hnames : ∀ name ∈ location, IsName name) (hnode : node.WellNamed) :
    (top.put location node).WellNamed := by
  induction location generalizing top with
  | nil => exact hnode
  | cons name names ih =>
      rw [List.forall_mem_cons] at hnames
      refine htop.replaceEntry hnames.1 (ih ?_ hnames.2)
      cases hentry : top.entry? name with
      | none => exact .nothing
      | some entry => exact (htop.of_lookup hentry).2

/-! ### Following paths while entries are put in -/

/-- Only what is there is walked into, so a location is made of names. -/
theorem WellNamed.of_walkSteps {access : List String → Access} {root : FileNode}
    (hroot : root.WellNamed) {links : Nat} {here pending location : List String}
    (hhere : ∀ name ∈ here, IsName name)
    (hwalk : Snapshot.walkSteps access root links here pending = .ok location) :
    ∀ name ∈ location, IsName name := by
  fun_induction Snapshot.walkSteps access root links here pending
  case case1 here =>
    cases hwalk
    exact hhere
  case case5 ih => exact ih hhere hwalk
  case case6 ih => exact ih (fun name hmem => hhere name (List.dropLast_subset _ hmem)) hwalk
  case case10 ih =>
    refine ih (fun name hmem => ?_) hwalk
    split_ifs at hmem
    · cases hmem
    · exact hhere name hmem
  case case11 here step rest node hat _ _ _ _ _ entry _ hentry ih =>
    have hname := ((hroot.of_at? hat).2.of_lookup hentry).1
    exact ih (List.forall_mem_append.2 ⟨hhere, List.forall_mem_singleton.2 hname⟩) hwalk
  all_goals cases hwalk

theorem WellNamed.of_toOption_walkSteps {access : List String → Access} {root : FileNode}
    (hroot : root.WellNamed) {links : Nat} {here pending location : List String}
    (hhere : ∀ name ∈ here, IsName name)
    (hwalk : (Snapshot.walkSteps access root links here pending).toOption = some location) :
    ∀ name ∈ location, IsName name := by
  cases hsteps : Snapshot.walkSteps access root links here pending <;> rw [hsteps] at hwalk <;>
    cases hwalk
  exact hroot.of_walkSteps hhere hsteps

/-- A tree, and a location to put something below. -/
structure Ready (root : FileNode) (here : List String) : Prop where
  wellNamed : root.WellNamed
  isName : ∀ name ∈ here, IsName name

variable {root made : FileNode} {here steps location : List String} {step : String}

theorem Ready.dropLast (hready : Ready root here) : Ready root here.dropLast :=
  ⟨hready.wellNamed, fun name hmem => hready.isName name (List.dropLast_subset _ hmem)⟩

theorem Ready.concat (hready : Ready root here) (hstep : IsName step) :
    Ready root (here ++ [step]) :=
  ⟨hready.wellNamed,
    List.forall_mem_append.2 ⟨hready.isName, List.forall_mem_singleton.2 hstep⟩⟩

theorem Ready.put (hready : Ready root here) (hnode : node.WellNamed) :
    Ready (root.put here node) here :=
  ⟨hready.wellNamed.put hready.isName hnode, hready.isName⟩

theorem Ready.makeDirectories (hready : Ready root here)
    (hsteps : ∀ step ∈ steps, Path.separator ∉ step.toList)
    (hmade : root.makeDirectories here steps = some (made, location)) : Ready made location := by
  induction steps generalizing root here with
  | nil =>
      cases hmade
      exact hready
  | cons step rest ih =>
      rw [List.forall_mem_cons] at hsteps
      rw [FileNode.makeDirectories] at hmade
      split_ifs at hmade with hskip hup
      · exact ih hready hsteps.2 hmade
      · exact ih hready.dropLast hsteps.2 hmade
      · have hname : IsName step := by
          simp only [Bool.or_eq_true, beq_iff_eq, not_or] at hskip hup
          exact ⟨hskip.1, hskip.2, hup, hsteps.1⟩
        cases hchild : root.child? here step with
        | none =>
            rw [hchild] at hmade
            exact ih ((hready.concat hname).put .nothing) hsteps.2 hmade
        | some entry =>
            rw [hchild] at hmade
            cases entry with
            | file content => cases hmade
            | directory entries => exact ih (hready.concat hname) hsteps.2 hmade
            | link target =>
                obtain ⟨behind, hbehind, hmade⟩ := Option.bind_eq_some_iff.1 hmade
                have hwalk := (Option.filter_eq_some_iff.1 hbehind).1
                have hlocation := hready.wellNamed.of_toOption_walkSteps hready.isName hwalk
                exact ih ⟨hready.wellNamed, hlocation⟩ hsteps.2 hmade

theorem isName_of_step (hstep : Path.separator ∉ step.toList)
    (hname : (!FileNode.isName step) = false) : IsName step := by
  simp only [FileNode.isName, Bool.not_eq_false', Bool.and_eq_true, bne_iff_ne, ne_eq] at hname
  exact ⟨hname.1.1, hname.1.2, hname.2, hstep⟩

theorem Ready.placeBehind? {target : String} (hready : Ready root here)
    (hplace : root.placeBehind? here target = some (location, step)) :
    Ready root location ∧ Path.separator ∉ step.toList := by
  simp only [FileNode.placeBehind?, Option.bind_eq_bind, Option.bind_eq_some_iff,
    Option.pure_def, Option.some.injEq, Prod.mk.injEq] at hplace
  obtain ⟨last, hlast, above, habove, rfl, rfl⟩ := hplace
  have hstart : ∀ name ∈ if Path.isAbsolute target then [] else here, IsName name := by
    split_ifs
    · exact List.forall_mem_nil _
    · exact hready.isName
  exact ⟨⟨hready.wellNamed, hready.wellNamed.of_toOption_walkSteps hstart habove⟩,
    Path.notMem_separator_of_mem_steps (List.mem_of_getLast? hlast)⟩

theorem Ready.writeFile {links : Nat} {content : SourceFile} (hready : Ready root here)
    (hstep : Path.separator ∉ step.toList)
    (hmade : root.writeFile links here step content = some made) : made.WellNamed := by
  fun_induction FileNode.writeFile links root here step content with
  | case1 | case2 | case3 => cases hmade
  | case4 here step hgood target hchild links ih =>
      obtain ⟨⟨above, name⟩, hplace, hmade⟩ := Option.bind_eq_some_iff.1 hmade
      obtain ⟨habove, hname⟩ := hready.placeBehind? hplace
      exact ih above name habove hname hmade
  | case5 links here step hgood hnew hplain =>
      cases hmade
      have hname := isName_of_step hstep (Bool.or_eq_false_iff.1 (Bool.eq_false_iff.2 hgood)).1
      exact ((hready.concat hname).put (.file content)).wellNamed

theorem Ready.makeLink {target : String} (hready : Ready root here)
    (hstep : Path.separator ∉ step.toList) (hmade : root.makeLink here step target = some made) :
    made.WellNamed := by
  rw [FileNode.makeLink] at hmade
  split_ifs at hmade with hrefused
  cases hmade
  have hname := isName_of_step hstep (Bool.or_eq_false_iff.1 (Bool.eq_false_iff.2 hrefused)).1
  exact ((hready.concat hname).put (.link target)).wellNamed

/-- Of a directory to be placed only the path counts. -/
theorem Ready.place {path : String} (hready : Ready root here)
    (hmade : root.place here path node = some made) : made.WellNamed := by
  have hsteps : ∀ step ∈ Path.steps path, Path.separator ∉ step.toList :=
    fun step => Path.notMem_separator_of_mem_steps
  have habove : ∀ step ∈ (Path.steps path).dropLast, Path.separator ∉ step.toList :=
    fun step hmem => hsteps step (List.dropLast_subset _ hmem)
  cases node with
  | directory entries =>
      obtain ⟨⟨tree, location⟩, hdirectories, hmade⟩ := Option.bind_eq_some_iff.1 hmade
      cases hmade
      exact (hready.makeDirectories hsteps hdirectories).wellNamed
  | file content =>
      obtain ⟨⟨tree, above⟩, hdirectories, hmade⟩ := Option.bind_eq_some_iff.1 hmade
      obtain ⟨name, hname, hmade⟩ := Option.bind_eq_some_iff.1 hmade
      have hstep := hsteps name (List.mem_of_getLast? hname)
      exact (hready.makeDirectories habove hdirectories).writeFile hstep hmade
  | link target =>
      obtain ⟨⟨tree, above⟩, hdirectories, hmade⟩ := Option.bind_eq_some_iff.1 hmade
      obtain ⟨name, hname, hmade⟩ := Option.bind_eq_some_iff.1 hmade
      have hstep := hsteps name (List.mem_of_getLast? hname)
      exact (hready.makeDirectories habove hdirectories).makeLink hstep hmade

end FileNode

namespace Snapshot

open FileNode (Ready)

theorem wellNamed_placeJson? {base : List String} {root made : FileNode} {json : Json}
    (hbase : ∀ name ∈ base, IsName name) (hroot : root.WellNamed)
    (hmade : placeJson? base root json = some made) : made.WellNamed := by
  simp only [placeJson?, Option.bind_eq_bind, Option.bind_eq_some_iff] at hmade
  obtain ⟨record, -, path, -, node, -, hmade⟩ := hmade
  exact Ready.place ⟨hroot, hbase⟩ hmade

theorem wellNamed_foldlM_placeJson? {base : List String} {root made : FileNode}
    {files : List Json} (hbase : ∀ name ∈ base, IsName name) (hroot : root.WellNamed)
    (hmade : files.foldlM (placeJson? base) root = some made) : made.WellNamed := by
  induction files generalizing root with
  | nil =>
      cases hmade
      exact hroot
  | cons first rest ih =>
      rw [List.foldlM_cons] at hmade
      obtain ⟨placed, hplaced, hmade⟩ := Option.bind_eq_some_iff.1 hmade
      exact ih (wellNamed_placeJson? hbase hroot hplaced) hmade

/-- Whatever a document lists, below a base that has names only. -/
theorem wellNamed_ofJson? {base : List String} {json : Json} {snapshot : Snapshot}
    (hbase : ∀ name ∈ base, IsName name) (hread : ofJson? base json = some snapshot) :
    snapshot.root.WellNamed := by
  simp only [ofJson?, Option.bind_eq_bind, Option.bind_eq_some_iff] at hread
  obtain ⟨record, -, files, -, below, -, root, hroot, directory, -, hread⟩ := hread
  cases hread
  exact wellNamed_foldlM_placeJson? hbase (FileNode.WellNamed.nothing.put hbase .nothing) hroot

end Snapshot

end NamingCheck
