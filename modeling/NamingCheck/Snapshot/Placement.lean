import NamingCheck.Snapshot.Basic

/-!
Building a snapshot up, entry by entry.

A path is followed as it stands at the time: through the links that are already there, and through
directories that are made where they are missing. What is there stays, except that a file is written
over. Nothing is in the way yet.
-/

namespace NamingCheck

namespace FileNode

def child? (root : FileNode) (here : List String) (name : String) : Option FileNode :=
  (root.at? here).bind fun node => node.entry? name

def directoryAt (root : FileNode) (location : List String) : Bool :=
  (root.at? location).any isDirectory

/-- The directory behind a link, if it leads to one. -/
def directoryBehind? (root : FileNode) (here : List String) (link : String) :
    Option (List String) :=
  (Snapshot.walkSteps (fun _ => {}) root Snapshot.maxLinks here [link]).toOption.filter
    root.directoryAt

/-- Makes what is missing of the directories on a way, and finds the location of the last. -/
def makeDirectories (root : FileNode) (here : List String) :
    List String → Option (FileNode × List String)
  | [] => some (root, here)
  | step :: rest =>
      if step == "" || step == "." then makeDirectories root here rest
      else if step == ".." then makeDirectories root here.dropLast rest
      else
        match root.child? here step with
        | none =>
            makeDirectories (root.put (here ++ [step]) (directory [])) (here ++ [step]) rest
        | some (directory _) => makeDirectories root (here ++ [step]) rest
        | some (link _) =>
            (root.directoryBehind? here step).bind fun location =>
              makeDirectories root location rest
        | some (file _) => none

/-- The location of the directory above the place where a link points, and the name there. -/
def placeBehind? (root : FileNode) (here : List String) (target : String) :
    Option (List String × String) := do
  let steps := Path.steps target
  let name ← steps.getLast?
  let start := if Path.isAbsolute target then [] else here
  let above ←
    (Snapshot.walkSteps (fun _ => {}) root Snapshot.maxLinks start steps.dropLast).toOption
  return (above, name)

def isName (step : String) : Bool :=
  step != "" && step != "." && step != ".."

/-- Writes a file under a name. Behind a link that leads nowhere yet, the file comes to stand where
the link points. -/
def writeFile (links : Nat) (root : FileNode) (here : List String) (name : String)
    (content : SourceFile) : Option FileNode :=
  if !isName name || !root.directoryAt here then none
  else
    match root.child? here name with
    | some (directory _) => none
    | some (link target) =>
        match links with
        | 0 => none
        | links + 1 =>
            (root.placeBehind? here target).bind fun (above, name) =>
              writeFile links root above name content
    | _ => some (root.put (here ++ [name]) (file content))

def makeLink (root : FileNode) (here : List String) (name target : String) : Option FileNode :=
  if !isName name || (root.child? here name).isSome then none
  else some (root.put (here ++ [name]) (link target))

/-- Puts an entry where a path leads from a location. A directory that is there already is kept as
it is. -/
def place (root : FileNode) (here : List String) (path : String) (node : FileNode) :
    Option FileNode := do
  let steps := Path.steps path
  match node with
  | directory _ => return (← root.makeDirectories here steps).1
  | file content =>
      let (root, above) ← root.makeDirectories here steps.dropLast
      writeFile Snapshot.maxLinks root above (← steps.getLast?) content
  | link target =>
      let (root, above) ← root.makeDirectories here steps.dropLast
      makeLink root above (← steps.getLast?) target

end FileNode

end NamingCheck
