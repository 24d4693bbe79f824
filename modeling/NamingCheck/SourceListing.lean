import NamingCheck.Glob.Set
import NamingCheck.Ignore.Scope
import NamingCheck.Language

/-!
The source files below a path.

Listed are the regular files that the ignore rules leave visible, whose extension names a language
and whose path below the root no exclusion matches. Links are not followed, except where the root is
one. The listing is sorted by the components of the paths, whatever the order of the entries.
-/

namespace NamingCheck

structure SourceEntry where
  path : String
  language : Language
  deriving DecidableEq, Repr, Inhabited

namespace SourceListing

/-- What is found below the root of a listing. -/
inductive Finding where
  /-- A regular file, as the names that lead to it from the root. -/
  | file (names : List String)
  /-- A directory that cannot be opened, and why. -/
  | closed (path : String) (cause : AccessError)
  deriving DecidableEq, Repr, Inhabited

namespace Finding

def file? : Finding → Option (List String)
  | file names => some names
  | closed .. => none

def closed? : Finding → Option (String × AccessError)
  | file _ => none
  | closed path cause => some (path, cause)

end Finding

/-- What is visible below a directory, which is given by its path and by the names that lead to it
from the root. An entry tells by itself whether it is a file or a directory, but a directory is
opened by its path. -/
def findings (snapshot : Snapshot) (chain : IgnoreChain) (directory : String)
    (below : List String) : List (String × FileNode) → List Finding
  | [] => []
  | (name, .file _) :: rest =>
      (if chain.isVisible directory name false then [.file (below ++ [name])] else [])
        ++ findings snapshot chain directory below rest
  | (name, .directory entries) :: rest =>
      let inside := Path.child directory name
      (if !chain.isVisible directory name true then []
        else
          match snapshot.openFault? inside with
          | some cause => [.closed inside cause]
          | none =>
              findings snapshot (chain.enter (IgnoreScope.ofDirectory snapshot inside)) inside
                (below ++ [name]) entries)
        ++ findings snapshot chain directory below rest
  | (_, .link _) :: rest => findings snapshot chain directory below rest

def ofDirectory (snapshot : Snapshot) (root : String) (location : List String)
    (entries : List (String × FileNode)) : List Finding :=
  findings snapshot (IgnoreChain.around snapshot root location) root [] entries

/-- The entry for a file, unless it is excluded or no source file. -/
def entry? (exclude : PatternSet) (relative shown : String) : Option SourceEntry :=
  if exclude.matchesPath relative then none
  else (Language.ofPath? shown).map fun language => { path := shown, language }

def sorted (files : List (List String)) : List (List String) :=
  files.mergeSort fun left right => !right.lex left

def entries (root : String) (exclude : PatternSet) (files : List (List String)) :
    List SourceEntry :=
  (sorted files).filterMap fun names =>
    entry? exclude (Path.join names) (Path.child root (Path.join names))

/-- A root by this name stands for the standard input, which is no file. -/
def standardInput : String := "-"

end SourceListing

namespace Snapshot

/-- What is found below a root that is a directory. -/
def findings (snapshot : Snapshot) (root : String) : List SourceListing.Finding :=
  match snapshot.resolve root with
  | .error _ => []
  | .ok location =>
      match snapshot.root.at? location, snapshot.openFault? root with
      | some (.directory _), some cause => [.closed root cause]
      | some (.directory entries), none => SourceListing.ofDirectory snapshot root location entries
      | _, _ => []

/-- A root that is a file is listed by itself, and no ignore rule speaks of it. -/
def sources (snapshot : Snapshot) (root : String) (exclude : PatternSet) : List SourceEntry :=
  if Path.isOnly SourceListing.standardInput root then []
  else if snapshot.isFile root then (SourceListing.entry? exclude "" root).toList
  else SourceListing.entries root exclude ((snapshot.findings root).filterMap (·.file?))

/-- The directories from a root down that are left out because they cannot be opened. -/
def closedDirectories (snapshot : Snapshot) (root : String) : List (String × AccessError) :=
  if Path.isOnly SourceListing.standardInput root then []
  else (snapshot.findings root).filterMap (·.closed?)

end Snapshot

end NamingCheck
