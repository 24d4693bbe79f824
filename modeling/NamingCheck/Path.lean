import NamingCheck.Text.Blank
import NamingCheck.Text.Parts

/-!
Paths as texts: their steps, their components and their extensions.
-/

namespace NamingCheck.Path

def separator : Char := '/'

/-- The texts between separators, empty ones included. -/
def steps (path : String) : List String :=
  (Text.splitAt separator path.toList).map String.ofList

/-- The steps that lead somewhere. -/
def components (path : String) : List String :=
  (steps path).filter fun step => step != "" && step != "."

def isAbsolute (path : String) : Bool :=
  path.toList.head? == some separator

def join (components : List String) : String :=
  String.intercalate "/" components

/-- The absolute path that takes the given steps from the root. -/
def absolute (components : List String) : String :=
  "/" ++ join components

/-- The path of what a directory holds. The directory keeps its spelling, and one separator follows
it if it ends in none. -/
def child (directory name : String) : String :=
  if directory == "" || directory.toList.getLast? == some separator then directory ++ name
  else directory ++ "/" ++ name

/-- A path as it reads from a directory; an absolute path reads the same from everywhere. -/
def readFrom (directory path : String) : String :=
  if isAbsolute path then path else child directory path

/-- Whether the path leads nowhere behind its first step, which is the given one. -/
def isOnly (step path : String) : Bool :=
  match steps path with
  | [] => false
  | first :: rest => first == step && rest.all fun later => later == "" || later == "."

def isCurrent (path : String) : Bool := isOnly "." path

/-- A path without one `./` in front of it. -/
def withoutCurrent (path : String) : String :=
  String.ofList (Text.without ['.', separator] path.toList)

/-- What a path says behind a directory and a separator, if it begins with the directory, letter for
letter; else all of it. -/
def behind (directory path : String) : String :=
  match Text.after? directory.toList path.toList with
  | none => path
  | some rest => String.ofList (Text.without [separator] rest)

/-- What follows the last dot of a name, unless the name has no other dot and starts with it. -/
def extensionOfName? (name : List Char) : Option (List Char) :=
  let tail := name.reverse.takeWhile (· != '.')
  if tail.length + 1 < name.length then some tail.reverse else none

def extension? (path : String) : Option String :=
  match (components path).getLast? with
  | none => none
  | some ".." => none
  | some name => (extensionOfName? name.toList).map String.ofList

end NamingCheck.Path
