import NamingCheck.Event
import NamingCheck.Lowering
import NamingCheck.Snapshot.Basic

/-!
Files read from a snapshot and lowered to entities, or the reason why not.
-/

namespace NamingCheck

inductive FileError where
  | syntaxError (path : String) (line : UInt32)
  | unreadable (path : String) (cause : AccessError)
  deriving DecidableEq, Repr, Inhabited

def FileError.message : FileError → String
  | syntaxError path line => path ++ ":" ++ toString line.toNat ++ ": syntax error"
  | unreadable path cause => "failed to read " ++ path ++ ": " ++ cause.message

structure LoadedFile where
  root : Entity
  /-- The line of the first syntax error, if the tree is not the tree of the whole text. -/
  errorLine : Option UInt32
  deriving Inhabited

namespace LoadedFile

def ofSource (path : String) (content : SourceFile) (fatalErrors : Bool) :
    Except FileError LoadedFile :=
  match fatalErrors, content.tree.errorLine? with
  | true, some line => .error (.syntaxError path line)
  | _, errorLine =>
      .ok { root := Lowering.fileEntity content.bytes path content.tree, errorLine }

def load (snapshot : Snapshot) (path : String) (fatalErrors : Bool) :
    Except FileError LoadedFile :=
  match snapshot.read path with
  | .error cause => .error (.unreadable path cause)
  | .ok content => ofSource path content fatalErrors

/-- What is logged about a file that was loaded; a failure is reported elsewhere. -/
def events (path : String) : Except FileError LoadedFile → List Event
  | .error _ => []
  | .ok parsed =>
      (parsed.errorLine.map (Event.syntaxRecovered path)).toList
        ++ [.parsed path parsed.root.count]

end LoadedFile

end NamingCheck
