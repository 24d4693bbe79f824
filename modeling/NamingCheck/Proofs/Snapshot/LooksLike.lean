import Mathlib.Data.List.Basic
import Mathlib.Tactic.Common
import NamingCheck.Ignore.Scope

/-!
# Snapshots that look alike

Paths lead the same way in two snapshots, and ignore files say the same, if the two have files of
the same bytes, directories and links at the same locations and the same is in the way there.
Neither the syntax trees of the files nor the order in which a directory lists its entries makes a
difference.
-/

namespace NamingCheck

/-- What shows of an entry: a file without its tree, a directory without what it holds. -/
inductive Outline where
  | file (bytes : ByteArray)
  | directory
  | link (target : String)

namespace FileNode

def outline : FileNode → Outline
  | file content => .file content.bytes
  | directory _ => .directory
  | link target => .link target

def outlineAt? (node : FileNode) (location : List String) : Option Outline :=
  (node.at? location).map outline

theorem outlineAt?_of_at? {node found : FileNode} {location : List String}
    (hat : node.at? location = some found) : node.outlineAt? location = some found.outline := by
  rw [outlineAt?, hat, Option.map_some]

theorem at?_append (node : FileNode) (here below : List String) :
    node.at? (here ++ below) = (node.at? here).bind (·.at? below) := by
  induction here generalizing node with
  | nil => rfl
  | cons name names ih =>
      rw [List.cons_append, at?, at?, Option.bind_assoc]
      exact Option.bind_congr fun entry _ => ih entry

theorem at?_concat (node : FileNode) (here : List String) (name : String) :
    node.at? (here ++ [name]) = (node.at? here).bind fun below => below.entry? name := by
  rw [at?_append]
  exact Option.bind_congr fun entry _ => Option.bind_fun_some (entry.entry? name)

end FileNode

namespace Snapshot

open FileNode (outline)

/-! ### Paths lead the same way -/

/-- A walk sees no more than outlines. -/
theorem walkSteps_cons (access : List String → Access) (root : FileNode) (links : Nat)
    (here : List String) (step : String) (rest : List String) :
    walkSteps access root links here (step :: rest) =
      match root.outlineAt? here with
      | none => .error .notFound
      | some (.file _) | some (.link _) => .error .notADirectory
      | some .directory =>
          match (access here).stepFault? step with
          | some cause => .error cause
          | none =>
              if step == "" || step == "." then walkSteps access root links here rest
              else if step == ".." then walkSteps access root links here.dropLast rest
              else if maxNameBytes < step.utf8ByteSize then .error .nameTooLong
              else
                match root.outlineAt? (here ++ [step]) with
                | none => .error .notFound
                | some (.link target) =>
                    match links with
                    | 0 => .error .tooManyLinks
                    | links + 1 =>
                        walkSteps access root links (if Path.isAbsolute target then [] else here)
                          (Path.steps target ++ rest)
                | some _ => walkSteps access root links (here ++ [step]) rest := by
  rw [walkSteps, FileNode.outlineAt?, FileNode.outlineAt?, FileNode.at?_concat]
  cases root.at? here with
  | none => rfl
  | some node =>
      cases node with
      | file _ | link _ => rfl
      | directory entries =>
          simp only [Option.bind_some, Option.map_some, outline, FileNode.isDirectory]
          cases FileNode.entry? (.directory entries) step with
          | none => rfl
          | some entry => cases entry <;> rfl

theorem walkSteps_congr {left right : FileNode} (access : List String → Access)
    (hsame : ∀ location, left.outlineAt? location = right.outlineAt? location) (links : Nat)
    (here pending : List String) :
    walkSteps access left links here pending = walkSteps access right links here pending := by
  -- A link is paid for with one of those that are left, every other step with itself.
  induction links generalizing here pending with
  | zero =>
      induction pending generalizing here with
      | nil => rw [walkSteps, walkSteps]
      | cons step rest hrest =>
          rw [walkSteps_cons, walkSteps_cons, hsame, hsame]
          simp only [hrest]
  | succ links hlink =>
      induction pending generalizing here with
      | nil => rw [walkSteps, walkSteps]
      | cons step rest hrest =>
          rw [walkSteps_cons, walkSteps_cons, hsame, hsame]
          simp only [hrest, hlink]

/-- The same files but for their trees, the same links and directories, at the same locations, and
the same in the way there. -/
structure LooksLike (left right : Snapshot) : Prop where
  workingDirectory_eq : left.workingDirectory = right.workingDirectory
  access_eq : left.access = right.access
  outlineAt?_eq : ∀ location, left.root.outlineAt? location = right.root.outlineAt? location

/-- What shows of the entry to which a path leads. -/
def outlineOf (snapshot : Snapshot) (path : String) : Except AccessError Outline :=
  (snapshot.nodeAt path).map outline

theorem outlineOf_eq (snapshot : Snapshot) (path : String) :
    snapshot.outlineOf path =
      (snapshot.resolve path).bind fun location =>
        match snapshot.root.outlineAt? location with
        | none => .error .notFound
        | some found => .ok found := by
  rw [outlineOf, nodeAt]
  cases snapshot.resolve path with
  | error cause => rfl
  | ok location =>
      simp only [bind, Except.bind, FileNode.outlineAt?]
      cases snapshot.root.at? location <;> rfl

theorem holds_eq (snapshot : Snapshot) (path : String) :
    snapshot.holds path = (snapshot.outlineOf path).isOk := by
  rw [holds, outlineOf]
  cases snapshot.nodeAt path <;> rfl

theorem isDirectory_eq (snapshot : Snapshot) (path : String) :
    snapshot.isDirectory path =
      match snapshot.outlineOf path with
      | .ok .directory => true
      | _ => false := by
  rw [isDirectory, outlineOf]
  rcases snapshot.nodeAt path with cause | ⟨_ | _ | _⟩ <;> rfl

theorem isFile_eq (snapshot : Snapshot) (path : String) :
    snapshot.isFile path =
      match snapshot.outlineOf path with
      | .ok (.file _) => true
      | _ => false := by
  rw [isFile, outlineOf]
  rcases snapshot.nodeAt path with cause | ⟨_ | _ | _⟩ <;> rfl

/-- The bytes of the file to which a path leads. -/
def bytesOf? (snapshot : Snapshot) (path : String) : Option ByteArray :=
  (snapshot.read path).toOption.map (·.bytes)

theorem bytesOf?_eq (snapshot : Snapshot) (path : String) :
    snapshot.bytesOf? path =
      match snapshot.openFault? path, snapshot.outlineOf path with
      | none, .ok (.file bytes) => some bytes
      | _, _ => none := by
  rw [bytesOf?, read, outlineOf]
  cases snapshot.openFault? path with
  | some cause => rfl
  | none => rcases snapshot.nodeAt path with cause | ⟨_ | _ | _⟩ <;> rfl

namespace LooksLike

variable {left right : Snapshot} (hlike : LooksLike left right)
include hlike

theorem symm : LooksLike right left :=
  ⟨hlike.workingDirectory_eq.symm, hlike.access_eq.symm,
    fun location => (hlike.outlineAt?_eq location).symm⟩

theorem resolve_eq (path : String) : left.resolve path = right.resolve path := by
  rw [resolve, resolve, hlike.workingDirectory_eq, hlike.access_eq,
    walkSteps_congr right.access hlike.outlineAt?_eq]

theorem openFault?_eq (path : String) : left.openFault? path = right.openFault? path := by
  rw [openFault?, openFault?, hlike.resolve_eq, hlike.access_eq]

theorem outlineOf_eq (path : String) : left.outlineOf path = right.outlineOf path := by
  rw [Snapshot.outlineOf_eq, Snapshot.outlineOf_eq, hlike.resolve_eq]
  simp only [hlike.outlineAt?_eq]

theorem holds_eq (path : String) : left.holds path = right.holds path := by
  rw [Snapshot.holds_eq, Snapshot.holds_eq, hlike.outlineOf_eq]

theorem isDirectory_eq (path : String) : left.isDirectory path = right.isDirectory path := by
  rw [Snapshot.isDirectory_eq, Snapshot.isDirectory_eq, hlike.outlineOf_eq]

theorem isFile_eq (path : String) : left.isFile path = right.isFile path := by
  rw [Snapshot.isFile_eq, Snapshot.isFile_eq, hlike.outlineOf_eq]

theorem bytesOf?_eq (path : String) : left.bytesOf? path = right.bytesOf? path := by
  rw [Snapshot.bytesOf?_eq, Snapshot.bytesOf?_eq, hlike.outlineOf_eq, hlike.openFault?_eq]

end LooksLike

end Snapshot

/-! ### Ignore files say the same -/

namespace Repository

theorem firstLine?_eq (snapshot : Snapshot) (path : String) :
    firstLine? snapshot path = (snapshot.bytesOf? path).bind Text.firstLine? := by
  rw [firstLine?, Snapshot.bytesOf?, Option.bind_map]
  rfl

variable {left right : Snapshot} (hlike : left.LooksLike right) (directory : String)
include hlike

theorem isTop_of_looksLike : isTop left directory = isTop right directory := by
  rw [isTop, isTop, hlike.holds_eq, hlike.holds_eq]

theorem excludeFile?_of_looksLike : excludeFile? left directory = excludeFile? right directory := by
  simp only [excludeFile?, hlike.isFile_eq, commonDirectory?, firstLine?_eq, hlike.bytesOf?_eq]

end Repository

namespace IgnoreScope

theorem rulesAt_eq (snapshot : Snapshot) (path : String) :
    rulesAt snapshot path = ((snapshot.bytesOf? path).map IgnoreRules.ofBytes).getD [] := by
  rw [rulesAt, Snapshot.bytesOf?]
  cases snapshot.read path <;> rfl

theorem ofDirectory_of_looksLike {left right : Snapshot} (hlike : left.LooksLike right)
    (directory : String) : ofDirectory left directory = ofDirectory right directory := by
  have hrules : rulesAt left = rulesAt right := by
    funext path
    rw [rulesAt_eq, rulesAt_eq, hlike.bytesOf?_eq]
  rw [ofDirectory, ofDirectory, Repository.excludeFile?_of_looksLike hlike,
    Repository.isTop_of_looksLike hlike, hrules]

end IgnoreScope

theorem IgnoreChain.around_of_looksLike {left right : Snapshot} (hlike : left.LooksLike right)
    (root : String) (location : List String) :
    around left root location = around right root location := by
  simp only [around, IgnoreScope.ofDirectory_of_looksLike hlike]

end NamingCheck
