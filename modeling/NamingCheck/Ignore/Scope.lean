import NamingCheck.Ignore.Rule
import NamingCheck.Ignore.Repository

/-!
Which entries of a directory the ignore files hide.

The ignore files of a directory speak of everything below it. There are four kinds of them, in a
fixed order of precedence; within one kind the innermost directory with an opinion decides.

Rules are held against the letters of paths. The directories from the root of a listing down are
spelled as the root is, those around the root by their absolute paths, and a path counts as below a
directory only where it is spelled so.
-/

namespace NamingCheck

/-- The rules that hold below one directory. -/
structure IgnoreScope where
  /-- The path of the directory. -/
  directory : String
  ownRules : List IgnoreRule
  plainRules : List IgnoreRule
  gitRules : List IgnoreRule
  excludeRules : List IgnoreRule
  /-- Whether the directory is the top of a repository. -/
  isRepository : Bool
  deriving Inhabited

namespace IgnoreScope

def rulesAt (snapshot : Snapshot) (path : String) : List IgnoreRule :=
  match snapshot.read path with
  | .ok content => IgnoreRules.ofBytes content.bytes
  | .error _ => []

def ofDirectory (snapshot : Snapshot) (directory : String) : IgnoreScope where
  directory
  ownRules := rulesAt snapshot (Path.child directory ".crestignore")
  plainRules := rulesAt snapshot (Path.child directory ".ignore")
  gitRules := rulesAt snapshot (Path.child directory ".gitignore")
  excludeRules := ((Repository.excludeFile? snapshot directory).map (rulesAt snapshot)).getD []
  isRepository := Repository.isTop snapshot directory

/-- What the rules see of a path. A name by itself is never shortened. -/
def seen (scope : IgnoreScope) (path : String) : String :=
  let directory := Path.withoutCurrent scope.directory
  let path := Path.withoutCurrent path
  if Path.isCurrent directory || !path.toList.contains Path.separator then path
  else Path.behind directory path

end IgnoreScope

/-- What one scope sees of an entry. -/
structure IgnoreView where
  scope : IgnoreScope
  path : String
  isDirectory : Bool
  deriving Inhabited

namespace IgnoreView

def keeps? (view : IgnoreView) (rulesOf : IgnoreScope → List IgnoreRule) : Option Bool :=
  IgnoreRules.keeps? (rulesOf view.scope) view.path view.isDirectory

/-- Up to the top of the innermost repository; nothing outside of all repositories. -/
def withinRepository (views : List IgnoreView) : List IgnoreView :=
  match views.dropWhile fun view => !view.scope.isRepository with
  | [] => []
  | top :: _ => views.takeWhile (fun view => !view.scope.isRepository) ++ [top]

end IgnoreView

/-- The scopes around an entry, the innermost first. -/
structure IgnoreChain where
  /-- The root of the listing as it is written, and where it is. -/
  root : String
  location : String
  /-- From the directory of the entry up to the root. -/
  inner : List IgnoreScope
  /-- Around the root. -/
  outer : List IgnoreScope
  deriving Inhabited

namespace IgnoreChain

def around (snapshot : Snapshot) (root : String) (location : List String) : IgnoreChain where
  root
  location := Path.absolute location
  inner := [IgnoreScope.ofDirectory snapshot root]
  outer := (List.range location.length).reverse.map fun depth =>
    IgnoreScope.ofDirectory snapshot (Path.absolute (location.take depth))

def enter (chain : IgnoreChain) (scope : IgnoreScope) : IgnoreChain :=
  { chain with inner := scope :: chain.inner }

/-- The absolute path of an entry, which the scopes around the root go by. -/
def outerPath (chain : IgnoreChain) (path : String) : String :=
  let path := Path.withoutCurrent path
  Path.readFrom chain.location <|
    if Path.isCurrent chain.root then path
    else Path.behind (Path.withoutCurrent chain.root) path

def views (chain : IgnoreChain) (path : String) (isDirectory : Bool) : List IgnoreView :=
  let innerPath := Path.withoutCurrent path
  let outerPath := chain.outerPath path
  (chain.inner.map fun scope => ⟨scope, scope.seen innerPath, isDirectory⟩)
    ++ chain.outer.map fun scope => ⟨scope, scope.seen outerPath, isDirectory⟩

def keeps? (chain : IgnoreChain) (path : String) (isDirectory : Bool) : Option Bool :=
  let views := chain.views path isDirectory
  let git := IgnoreView.withinRepository views
  (views.findSome? (·.keeps? IgnoreScope.ownRules)).or <|
    (views.findSome? (·.keeps? IgnoreScope.plainRules)).or <|
    (git.findSome? (·.keeps? IgnoreScope.gitRules)).or <|
    git.findSome? (·.keeps? IgnoreScope.excludeRules)

/-- Where no rule speaks, names that begin with a dot are hidden. -/
def isVisible (chain : IgnoreChain) (directory name : String) (isDirectory : Bool) : Bool :=
  (chain.keeps? (Path.child directory name) isDirectory).getD (name.toList.head? != some '.')

end IgnoreChain

end NamingCheck
