import NamingCheck.Snapshot.Basic
import NamingCheck.Text.Lines

/-!
Repositories, and the file of exclusions that each has for itself.

The top of a repository holds `.git` or `.jj`. Where `.git` is a file, it names a directory, which
names in turn the directory that several working trees have in common. Both are read from where the
work is done.
-/

namespace NamingCheck.Repository

def isTop (snapshot : Snapshot) (directory : String) : Bool :=
  snapshot.holds (Path.child directory ".git") || snapshot.holds (Path.child directory ".jj")

def firstLine? (snapshot : Snapshot) (path : String) : Option String :=
  (snapshot.read path).toOption.bind fun content => Text.firstLine? content.bytes

def pointer : List Char := "gitdir: ".toList

/-- The directory in common, given the file that stands for `.git`. A name that begins with a dot is
read from the directory that holds it. -/
def commonDirectory? (snapshot : Snapshot) (file : String) : Option String := do
  let named ← Text.after? pointer (← firstLine? snapshot file).toList
  let own := String.ofList named
  let common ← firstLine? snapshot (Path.child own "commondir")
  return if common.toList.head? == some '.' then Path.child own common else common

/-- The file of exclusions, if it is known where it would be. -/
def excludeFile? (snapshot : Snapshot) (directory : String) : Option String :=
  let git := Path.child directory ".git"
  let home := if snapshot.isFile git then commonDirectory? snapshot git else some git
  home.map fun home => Path.child home "info/exclude"

end NamingCheck.Repository
