import NamingCheck.Json.Parser
import NamingCheck.Program
import NamingCheck.Snapshot.Document

/-!
The command line. The files to be checked come with their syntax trees, as one line of standard
input that holds the document of a snapshot.
-/

namespace NamingCheck

def readEnvironment (stdout : IO.FS.Stream) : IO Environment := do
  let noColor ← IO.getEnv "NO_COLOR"
  return {
    logFilter := ← IO.getEnv "CREST_LOG"
    configDir := ← IO.getEnv "CREST_DIR"
    stdoutIsTerminal := (← stdout.isTty) && noColor.isNone }

def writeResult (stdout stderr : IO.FS.Stream) (result : ProgramResult) : IO UInt32 := do
  for event in result.log do
    stderr.putStr (event.logLine ++ "\n")
  stdout.putStr result.stdout
  stderr.putStr result.stderr
  return UInt32.ofNat result.exitCode.number

def runCommandLine (arguments : List String) : IO UInt32 := do
  let stdout ← IO.getStdout
  let stderr ← IO.getStderr
  let environment ← readEnvironment stdout
  match Arguments.parse arguments environment.configDir with
  | .error interruption => writeResult stdout stderr (Program.interrupted interruption)
  | .ok invocation =>
      let document ← (← IO.getStdin).getLine
      match (Json.parse? document).bind (Snapshot.ofJson? []) with
      | none =>
          stderr.putStr "crest: standard input holds no snapshot of the files\n"
          return UInt32.ofNat ExitCode.trouble.number
      | some snapshot =>
          writeResult stdout stderr (Program.runInvocation invocation environment snapshot)

end NamingCheck

def main (arguments : List String) : IO UInt32 :=
  NamingCheck.runCommandLine arguments
