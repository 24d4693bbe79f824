import NamingCheck.Run.Checking
import NamingCheck.CommandLine.Usage
import NamingCheck.LogFilter

/-!
The program as a function: from its arguments, its environment and a snapshot of the file system to
what it prints, what it logs and its exit code.
-/

namespace NamingCheck

structure Environment where
  /-- What the log is asked to hold. -/
  logFilter : Option String := none
  /-- The directory of the settings, where the arguments name none. -/
  configDir : Option String := none
  stdoutIsTerminal : Bool := false

structure ProgramResult where
  exitCode : ExitCode
  stdout : String
  stderr : String
  /-- The events that pass the log filter. -/
  log : List Event

namespace Program

def settingsPath (configDir : Option String) : String :=
  Path.child (configDir.getD ".crest") "crest.json"

def loadSettings (snapshot : Snapshot) (configDir : Option String) : Settings × List Event :=
  Settings.load ((snapshot.read (settingsPath configDir)).toOption.map (·.bytes))

def formatter (invocation : Invocation) (settings : Settings) (isTerminal : Bool) : Formatter :=
  if invocation.json then .json
  else .human (.select (invocation.color.getD settings.color) isTerminal)

def execute (invocation : Invocation) (environment : Environment) (snapshot : Snapshot) :
    StateM Console ExitCode := do
  let (settings, events) := loadSettings snapshot invocation.configDir
  Console.log events
  match invocation.command with
  | .check paths fatalErrors =>
      Run.check (formatter invocation settings environment.stdoutIsTerminal) settings snapshot
        paths fatalErrors invocation.json
  | .completion shell =>
      Console.print (Usage.completionScript shell)
      return .compliant

def interrupted : Interruption → ProgramResult
  | .help => { exitCode := .compliant, stdout := Usage.helpText, stderr := "", log := [] }
  | .version => { exitCode := .compliant, stdout := Usage.versionText, stderr := "", log := [] }
  | .usage error =>
      { exitCode := .trouble, stdout := "", stderr := Usage.errorText error, log := [] }

def runInvocation (invocation : Invocation) (environment : Environment) (snapshot : Snapshot) :
    ProgramResult :=
  let (exitCode, console) := (execute invocation environment snapshot).run {}
  let filter := LogFilter.choose environment.logFilter invocation.verbose
  { exitCode
    stdout := console.stdout
    stderr := console.stderr
    log := console.events.filter filter.lets }

def run (arguments : List String) (environment : Environment) (snapshot : Snapshot) :
    ProgramResult :=
  match Arguments.parse arguments environment.configDir with
  | .error interruption => interrupted interruption
  | .ok invocation => runInvocation invocation environment snapshot

end Program

end NamingCheck
