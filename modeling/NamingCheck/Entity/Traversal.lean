import NamingCheck.Entity.Basic

/-!
What the naming policy looks at, and the order in which it does.

`EntityTree` is any tree whose nodes answer the questions the policy asks. `Pending` walks such a
tree lazily with an explicit stack; `OrderedTree.preorder`, filtered by `isJudged`, is the same
sequence described recursively.
-/

universe u

namespace NamingCheck

class EntityTree (Node : Type u) extends OrderedTree Node where
  kind : Node → Entity.Kind
  name : Node → String
  isTemplated : Node → Bool
  isFriended : Node → Bool
  /-- One-based; zero where no position is known. -/
  line : Node → UInt32 := fun _ => 0

instance : EntityTree Entity where
  kind := Entity.kind
  name := Entity.name
  isTemplated := Entity.isTemplated
  isFriended := Entity.isFriended
  line := Entity.line

/-- An entity tree that has forgotten where its entities were declared. -/
structure Unlined where
  entity : Entity

instance : EntityTree Unlined where
  children node := node.entity.children.map Unlined.mk
  weight node := node.entity.count
  weight_children_lt node := by
    rw [total_map]
    exact OrderedTree.weight_children_lt node.entity
  kind node := node.entity.kind
  name node := node.entity.name
  isTemplated node := node.entity.isTemplated
  isFriended node := node.entity.isFriended

namespace EntityTree

open OrderedTree (children weight)

variable {Node : Type u} [EntityTree Node]

/-- Entities whose own name is not judged. Their children still are. -/
def isShielded (node : Node) : Bool :=
  kind node == .file || isTemplated node || isFriended node

/-- Only named functions and member functions can be judged. -/
def isCandidate (node : Node) : Bool :=
  (kind node).isCallable && name node != ""

def isJudged (node : Node) : Bool :=
  !isShielded node && isCandidate node

/-- The nodes still to be visited, the next one first. -/
structure Pending (Node : Type u) where
  stack : List Node

namespace Pending

def start (root : Node) : Pending Node := ⟨[root]⟩

def remaining (pending : Pending Node) : Nat :=
  total weight pending.stack

/-- Visits nodes until one is judged, putting the children of each in front of its siblings. -/
def next? (pending : Pending Node) : Option (Node × Pending Node) :=
  match pending with
  | ⟨[]⟩ => none
  | ⟨node :: rest⟩ =>
      if isJudged node then some (node, ⟨children node ++ rest⟩)
      else next? ⟨children node ++ rest⟩
termination_by pending.remaining
decreasing_by
  have := OrderedTree.weight_children_lt node
  simp only [remaining, total_append, total_cons]
  omega

theorem remaining_lt_of_next? {pending rest : Pending Node} {node : Node}
    (hnext : pending.next? = some (node, rest)) : rest.remaining < pending.remaining := by
  fun_induction next? pending with
  | case1 => cases hnext
  | case2 first siblings hjudged =>
      cases hnext
      have := OrderedTree.weight_children_lt node
      simp only [remaining, total_append, total_cons]
      omega
  | case3 first siblings hjudged ih =>
      refine Nat.lt_trans (ih hnext) ?_
      have := OrderedTree.weight_children_lt first
      simp only [remaining, total_append, total_cons]
      omega

def toList (pending : Pending Node) : List Node :=
  match _hnext : pending.next? with
  | none => []
  | some (node, rest) => node :: rest.toList
termination_by pending.remaining
decreasing_by exact remaining_lt_of_next? ‹_›

end Pending

/-- The judged nodes of a tree, in the order in which they are met. -/
def judged (root : Node) : List Node :=
  (Pending.start root).toList

end EntityTree

end NamingCheck
