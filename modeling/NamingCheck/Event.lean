import NamingCheck.Snapshot.Basic

/-!
What the program logs about its work.
-/

namespace NamingCheck

/-- Levels from the gravest to the most detailed. -/
inductive Level where
  | error
  | warn
  | info
  | debug
  | trace
  deriving DecidableEq, Repr, Inhabited

namespace Level

def rank : Level → Nat
  | error => 1
  | warn => 2
  | info => 3
  | debug => 4
  | trace => 5

def name : Level → String
  | error => "ERROR"
  | warn => "WARN"
  | info => "INFO"
  | debug => "DEBUG"
  | trace => "TRACE"

end Level

inductive Event where
  /-- The settings file holds no settings, so the defaults are in force. -/
  | settingsRejected
  /-- A directory is left out of a listing because it cannot be opened. -/
  | directoryClosed (path : String) (cause : AccessError)
  /-- A file with a syntax error is checked as far as it was understood. -/
  | syntaxRecovered (file : String) (line : UInt32)
  | parsed (file : String) (entities : Nat)
  | checking (files : Nat) (fatalErrors : Bool)
  deriving DecidableEq, Repr

namespace Event

def level : Event → Level
  | settingsRejected => .warn
  | directoryClosed .. => .debug
  | syntaxRecovered .. => .warn
  | parsed .. => .debug
  | checking .. => .debug

/-- The part of the program that speaks; a log filter may name it or a beginning of it. -/
def origin : Event → String
  | settingsRejected => "crest_core::config"
  | directoryClosed .. => "crest_parsers::walker"
  | syntaxRecovered .. => "crest_enforce::check"
  | parsed .. => "crest_enforce::check"
  | checking .. => "crest::commands::check"

/-- The names of what is told, by which a log filter may choose. -/
def fields : Event → List String
  | settingsRejected => ["message", "path", "error"]
  | directoryClosed .. => ["message", "error"]
  | syntaxRecovered .. => ["message", "file", "line"]
  | parsed .. => ["message", "file", "entities"]
  | checking .. => ["message", "files", "fatal_errors"]

def message : Event → String
  | settingsRejected => "failed to parse config, using defaults"
  | directoryClosed path cause =>
      "skipping unreadable walk entry error=" ++ path ++ ": IO error for operation on " ++ path
        ++ ": " ++ cause.message
  | syntaxRecovered file line =>
      "syntax errors recovered, checking partial tree file=" ++ file
        ++ " line=" ++ toString line.toNat
  | parsed file entities => "parsed file=" ++ file ++ " entities=" ++ toString entities
  | checking files fatalErrors =>
      "checking files=" ++ toString files ++ " fatal_errors="
        ++ (if fatalErrors then "true" else "false")

/-- The event as it is written to the log: one line, unless a path in it holds more. -/
def logLine (event : Event) : String :=
  event.level.name ++ " " ++ event.message

end Event

end NamingCheck
