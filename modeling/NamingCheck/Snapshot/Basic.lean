import NamingCheck.Path
import NamingCheck.SyntaxTree.Basic

/-!
A snapshot of a file system: files, directories and symbolic links below one root.

A file carries its bytes and the syntax tree of its text. A location is the list of names that leads
from the root to an entry, free of links, `.` and `..`; `resolve` takes any path to its location.

An entry may be there and not be accessible. Taking a step in a directory and opening an entry, be
it to read a file or to list a directory, may each fail; telling what an entry is takes neither.
-/

namespace NamingCheck

/-- Why a path leads to no file that can be read, or to no directory that can be listed. -/
inductive AccessError where
  | notFound
  | inputOutput
  | permissionDenied
  | notADirectory
  | isADirectory
  | nameTooLong
  | tooManyLinks
  | nulInPath
  deriving DecidableEq, Repr, Inhabited

def AccessError.message : AccessError → String
  | notFound => "No such file or directory (os error 2)"
  | inputOutput => "Input/output error (os error 5)"
  | permissionDenied => "Permission denied (os error 13)"
  | notADirectory => "Not a directory (os error 20)"
  | isADirectory => "Is a directory (os error 21)"
  | nameTooLong => "File name too long (os error 36)"
  | tooManyLinks => "Too many levels of symbolic links (os error 40)"
  | nulInPath => "file name contained an unexpected NUL byte"

structure SourceFile where
  bytes : ByteArray
  tree : SyntaxNode
  deriving Inhabited

inductive FileNode where
  | file (content : SourceFile)
  | directory (entries : List (String × FileNode))
  | link (target : String)
  deriving Inhabited

namespace FileNode

def isDirectory : FileNode → Bool
  | directory _ => true
  | _ => false

def entries : FileNode → List (String × FileNode)
  | directory entries => entries
  | _ => []

def entry? (node : FileNode) (name : String) : Option FileNode :=
  (node.entries.find? fun entry => entry.1 == name).map Prod.snd

/-- The node at a location. -/
def at? (node : FileNode) : List String → Option FileNode
  | [] => some node
  | name :: names => (node.entry? name).bind fun entry => entry.at? names

def replaceEntry (entries : List (String × FileNode)) (name : String) (node : FileNode) :
    List (String × FileNode) :=
  match entries with
  | [] => [(name, node)]
  | first :: rest =>
      if first.1 == name then (name, node) :: rest else first :: replaceEntry rest name node

/-- Puts a node at a location, making the directories that lead there. -/
def put (top : FileNode) (location : List String) (node : FileNode) : FileNode :=
  match location with
  | [] => node
  | name :: names =>
      directory <| replaceEntry top.entries name <|
        ((top.entry? name).getD (directory [])).put names node

end FileNode

/-- What is in the way at a location. -/
structure Access where
  /-- Why no step can be taken in the directory. -/
  searchFault : Option AccessError := none
  /-- Why the file cannot be read or the directory be listed. -/
  openFault : Option AccessError := none
  deriving DecidableEq, Repr, Inhabited

/-- Why a step cannot be taken. One without a name stays where it is. -/
def Access.stepFault? (access : Access) (step : String) : Option AccessError :=
  if step == "" then none else access.searchFault

@[simp]
theorem Access.stepFault?_default (step : String) : ({} : Access).stepFault? step = none := by
  rw [stepFault?]
  exact ite_self none

structure Snapshot where
  root : FileNode
  /-- The location at which relative paths start. -/
  workingDirectory : List String
  access : List String → Access := fun _ => {}
  deriving Inhabited

namespace Snapshot

def maxLinks : Nat := 40

def maxNameBytes : Nat := 255

def maxPathBytes : Nat := 4095

/-- Whether no file system call takes the path. -/
def isTooLong (path : String) : Bool :=
  maxPathBytes < path.utf8ByteSize

/-- Takes the remaining steps from a location, following links as long as some may be followed. -/
def walkSteps (access : List String → Access) (root : FileNode) (links : Nat)
    (here : List String) (pending : List String) : Except AccessError (List String) :=
  match pending with
  | [] => .ok here
  | step :: rest =>
      match root.at? here with
      | none => .error .notFound
      | some node =>
          if !node.isDirectory then .error .notADirectory
          else
            match (access here).stepFault? step with
            | some cause => .error cause
            | none =>
                if step == "" || step == "." then walkSteps access root links here rest
                else if step == ".." then walkSteps access root links here.dropLast rest
                else if maxNameBytes < step.utf8ByteSize then .error .nameTooLong
                else
                  match node.entry? step with
                  | none => .error .notFound
                  | some (.link target) =>
                      match links with
                      | 0 => .error .tooManyLinks
                      | links + 1 =>
                          walkSteps access root links (if Path.isAbsolute target then [] else here)
                            (Path.steps target ++ rest)
                  | some _ => walkSteps access root links (here ++ [step]) rest
termination_by (links, pending.length)

/-- The location to which a path leads. -/
def resolve (snapshot : Snapshot) (path : String) : Except AccessError (List String) :=
  if path.toList.contains '\x00' then .error .nulInPath
  else if isTooLong path then .error .nameTooLong
  else if path == "" then .error .notFound
  else walkSteps snapshot.access snapshot.root maxLinks
    (if Path.isAbsolute path then [] else snapshot.workingDirectory) (Path.steps path)

def nodeAt (snapshot : Snapshot) (path : String) : Except AccessError FileNode := do
  match snapshot.root.at? (← snapshot.resolve path) with
  | none => .error .notFound
  | some node => .ok node

/-- Why what a path leads to cannot be opened. -/
def openFault? (snapshot : Snapshot) (path : String) : Option AccessError :=
  match snapshot.resolve path with
  | .error cause => some cause
  | .ok location => (snapshot.access location).openFault

def read (snapshot : Snapshot) (path : String) : Except AccessError SourceFile := do
  match snapshot.openFault? path with
  | some cause => .error cause
  | none =>
      match ← snapshot.nodeAt path with
      | .file content => .ok content
      | .directory _ => .error .isADirectory
      | .link _ => .error .tooManyLinks

theorem read_eq_ok_iff {snapshot : Snapshot} {path : String} {content : SourceFile} :
    snapshot.read path = .ok content ↔
      snapshot.openFault? path = none ∧ snapshot.nodeAt path = .ok (.file content) := by
  rw [read]
  cases snapshot.openFault? path with
  | some cause => simp
  | none =>
      cases snapshot.nodeAt path with
      | error cause => simp [bind, Except.bind]
      | ok node => cases node <;> simp [bind, Except.bind]

theorem read_of_resolve_eq_error {snapshot : Snapshot} {path : String} {cause : AccessError}
    (hlost : snapshot.resolve path = .error cause) : snapshot.read path = .error cause := by
  rw [read, openFault?, hlost]

theorem read_of_resolve {snapshot : Snapshot} {path : String} {location : List String}
    {content : SourceFile} (hlocation : snapshot.resolve path = .ok location)
    (hopens : (snapshot.access location).openFault = none)
    (hat : snapshot.root.at? location = some (.file content)) :
    snapshot.read path = .ok content := by
  refine read_eq_ok_iff.2 ⟨?_, ?_⟩
  · rw [openFault?, hlocation]
    exact hopens
  · rw [nodeAt, hlocation]
    simp only [bind, Except.bind, hat]

def holds (snapshot : Snapshot) (path : String) : Bool :=
  (snapshot.nodeAt path).isOk

def isDirectory (snapshot : Snapshot) (path : String) : Bool :=
  match snapshot.nodeAt path with
  | .ok (.directory _) => true
  | _ => false

def isFile (snapshot : Snapshot) (path : String) : Bool :=
  match snapshot.nodeAt path with
  | .ok (.file _) => true
  | _ => false

end Snapshot

end NamingCheck
