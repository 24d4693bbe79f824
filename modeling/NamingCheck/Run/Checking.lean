import NamingCheck.Output.Formatter
import NamingCheck.Run.Console
import NamingCheck.Run.CheckedFile
import NamingCheck.Run.Plan

/-!
A run of the checker over files and directories.

A single file is streamed, its verdicts printed as they are found; several files are checked each by
itself and then printed in order.
-/

namespace NamingCheck.Run

def exitCode (summary : Summary) : ExitCode :=
  if !summary.failures.isEmpty then .trouble
  else if summary.compliant then .compliant
  else .violations

def streamFile (formatter : Formatter) (options : CheckOptions) (snapshot : Snapshot)
    (path : String) : StateM Console Summary := do
  let loaded := LoadedFile.load snapshot path options.fatalErrors
  Console.log (LoadedFile.events path loaded)
  match loaded with
  | .error error =>
      let failure := CheckedFile.failure path error
      Console.printError (formatter.failure failure)
      return .ofResults [] [failure]
  | .ok parsed =>
      Console.print (formatter.header parsed.root.name)
      let report ← options.policy.check parsed.root.name parsed.root fun verdict =>
        Console.print (formatter.verdict verdict)
      Console.print (formatter.footer report)
      return .ofResults [report] []

def printOutcome (formatter : Formatter) (outcome : CheckedFile) : StateM Console Unit :=
  match outcome.result with
  | .ok report => do
      Console.print (formatter.header report.file)
      Console.print outcome.trace
      Console.print (formatter.footer report)
  | .error error => Console.printError (formatter.failure (CheckedFile.failure outcome.path error))

def checkEach (formatter : Formatter) (options : CheckOptions) (snapshot : Snapshot)
    (paths : List String) : StateM Console Summary := do
  let outcomes := CheckedFile.ofPaths options snapshot formatter.verdict paths
  outcomes.forM fun outcome => Console.log outcome.events
  outcomes.forM (printOutcome formatter)
  return .ofOutcomes outcomes

def checkFiles (formatter : Formatter) (options : CheckOptions) (snapshot : Snapshot)
    (files : List String) : StateM Console Summary :=
  match files with
  | [file] => streamFile formatter options snapshot file
  | files => checkEach formatter options snapshot files

/-- A document is always wanted; a summary of a single file is not. -/
def wantsSummary (json : Bool) (files : List String) : Bool :=
  json || 1 < files.length

def check (formatter : Formatter) (settings : Settings) (snapshot : Snapshot)
    (paths : List String) (fatalErrors json : Bool) : StateM Console ExitCode := do
  Console.log (planEvents settings snapshot paths)
  match plan settings snapshot paths with
  | .error refusal =>
      Console.printError ("crest check: " ++ refusal.message ++ "\n")
      return .trouble
  | .ok files =>
      let options : CheckOptions :=
        { policy := settings.policy, fatalErrors := fatalErrors || settings.fatalErrors }
      Console.log [.checking files.length options.fatalErrors]
      let summary ← checkFiles formatter options snapshot files
      if wantsSummary json files then Console.print (formatter.summary summary)
      return exitCode summary

end NamingCheck.Run
