import NamingCheck.Run.LoadedFile
import NamingCheck.Verdict.OfRun

/-!
Many files, each checked by itself. Nothing is shared between them but the policy, so the outcome of
one does not depend on the others, and the outcomes keep the order of the paths.
-/

namespace NamingCheck

structure CheckOptions where
  policy : Policy
  fatalErrors : Bool
  deriving Inhabited

structure CheckedFile where
  path : String
  result : Except FileError Report
  /-- The rendered verdicts of a report, in order. -/
  trace : String
  events : List Event

namespace CheckedFile

def failure (path : String) (error : FileError) : Failure where
  file := path
  error := error.message

def report? (outcome : CheckedFile) : Option Report := outcome.result.toOption

def failure? (outcome : CheckedFile) : Option Failure :=
  match outcome.result with
  | .ok _ => none
  | .error error => some (failure outcome.path error)

def appendTrace (render : Verdict → String) (verdict : Verdict) : StateM String Unit :=
  modify (· ++ render verdict)

def ofPath (options : CheckOptions) (snapshot : Snapshot) (render : Verdict → String)
    (path : String) : CheckedFile :=
  let loaded := LoadedFile.load snapshot path options.fatalErrors
  match loaded with
  | .error error =>
      { path, result := .error error, trace := "", events := LoadedFile.events path loaded }
  | .ok parsed =>
      let (report, trace) :=
        (options.policy.check parsed.root.name parsed.root (appendTrace render)).run ""
      { path, result := .ok report, trace, events := LoadedFile.events path loaded }

def ofPaths (options : CheckOptions) (snapshot : Snapshot) (render : Verdict → String)
    (paths : List String) : List CheckedFile :=
  paths.map (ofPath options snapshot render)

end CheckedFile

/-- Every outcome is either reported or counted as a failure. -/
def Summary.ofOutcomes (outcomes : List CheckedFile) : Summary :=
  .ofResults (outcomes.filterMap (·.report?)) (outcomes.filterMap (·.failure?))

end NamingCheck
