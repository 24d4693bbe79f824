import NamingCheck.Event
import NamingCheck.Settings
import NamingCheck.SourceListing

/-!
Which files a run checks. A run does not start before every pattern and every path is known to be
good.
-/

namespace NamingCheck

/-- Why a run does not start. -/
inductive RunRefusal where
  | badPattern (error : PatternError)
  | missingPath (path : String)
  | noSources
  deriving DecidableEq, Repr, Inhabited

def RunRefusal.message : RunRefusal → String
  | badPattern error => error.message
  | missingPath path => "no such file or directory: " ++ path
  | noSources => "no C/C++ source files found"

namespace Run

/-- A directory stands for the sources below it; a file stands for itself, whatever its name. -/
def expandPath (snapshot : Snapshot) (exclude : PatternSet) (path : String) :
    Except RunRefusal (List String) :=
  if snapshot.isDirectory path then .ok ((snapshot.sources path exclude).map (·.path))
  else if snapshot.isFile path then .ok [path]
  else .error (.missingPath path)

def expandPaths (snapshot : Snapshot) (exclude : PatternSet) (paths : List String) :
    Except RunRefusal (List String) :=
  (paths.mapM (expandPath snapshot exclude)).map List.flatten

def orWorkingDirectory (paths : List String) : List String :=
  if paths.isEmpty then ["."] else paths

/-- What is logged while directories are listed, which ends at the first path that is missing. -/
def planEvents (settings : Settings) (snapshot : Snapshot) (paths : List String) : List Event :=
  if !settings.exclusions.isOk then []
  else
    ((orWorkingDirectory paths).takeWhile fun path =>
      snapshot.isDirectory path || snapshot.isFile path).flatMap fun path =>
        (snapshot.closedDirectories path).map fun (closed, cause) => .directoryClosed closed cause

/-- The files to be checked, of which there is at least one. -/
def plan (settings : Settings) (snapshot : Snapshot) (paths : List String) :
    Except RunRefusal (List String) := do
  let exclude ← settings.exclusions.mapError RunRefusal.badPattern
  match ← expandPaths snapshot exclude (orWorkingDirectory paths) with
  | [] => .error .noSources
  | files => .ok files

end Run

end NamingCheck
