import NamingCheck.Event

/-!
The output of a run.
-/

namespace NamingCheck

/-- What a run has written so far. -/
structure Console where
  stdout : String := ""
  stderr : String := ""
  events : List Event := []

namespace Console

def print (text : String) : StateM Console Unit :=
  modify fun console => { console with stdout := console.stdout ++ text }

def printError (text : String) : StateM Console Unit :=
  modify fun console => { console with stderr := console.stderr ++ text }

def log (events : List Event) : StateM Console Unit :=
  modify fun console => { console with events := console.events ++ events }

end Console

inductive ExitCode where
  | compliant
  | violations
  | trouble
  deriving DecidableEq, Repr, Inhabited

def ExitCode.number : ExitCode → Nat
  | compliant => 0
  | violations => 1
  | trouble => 2

end NamingCheck
