import NamingCheck.SyntaxTree.Basic

/-!
Syntax trees given as a listing: one row for each node, in pre-order, with the depth of the node.
-/

namespace NamingCheck

structure SyntaxRow where
  depth : Nat
  kind : SyntaxKind
  field : Option SyntaxField
  row : Nat
  start : Nat
  stop : Nat
  isNamed : Bool
  isError : Bool
  isMissing : Bool
  hasError : Bool
  deriving Inhabited

namespace SyntaxRow

def toNode (row : SyntaxRow) (children : List SyntaxNode) : SyntaxNode where
  kind := row.kind
  field := row.field
  row := row.row
  start := row.start
  stop := row.stop
  isNamed := row.isNamed
  isError := row.isError
  isMissing := row.isMissing
  hasError := row.hasError
  children := children

/-- Nodes whose parent is yet to come, with the depth of each, the first in pre-order in front. -/
abbrev Orphans := List (Nat × SyntaxNode)

/-- Reading backwards, a row finds its children in front: the nodes that are one level deeper. -/
def adopt (row : SyntaxRow) (orphans : Orphans) : Orphans :=
  let children := orphans.takeWhile fun orphan => row.depth < orphan.1
  (row.depth, row.toNode (children.map Prod.snd)) :: orphans.drop children.length

end SyntaxRow

namespace SyntaxNode

/-- The tree whose rows are listed, if there is one row of depth zero and it is the first. -/
def ofRows? (rows : List SyntaxRow) : Option SyntaxNode :=
  match rows.foldr SyntaxRow.adopt [] with
  | [(0, root)] => some root
  | _ => none

end SyntaxNode

end NamingCheck
