import NamingCheck.Entity.Traversal

/-!
# The stack walk meets the judged nodes in pre-order

A stack stands for the pre-orders of its nodes, one after the other. Visiting the top node replaces
it by its children and so takes one node off the front of that sequence; what is found is therefore
what a filter of the sequence keeps.
-/

universe u

namespace NamingCheck.EntityTree

open OrderedTree (children weight preorder preorder_eq)

variable {Node : Type u} [EntityTree Node]

/-- The nodes about whose names the policy has something to say. -/
def OwesVerdict (node : Node) : Prop :=
  kind node ≠ .file ∧ isTemplated node = false ∧ isFriended node = false ∧
    (kind node = .function ∨ kind node = .memberFunction) ∧ name node ≠ ""

instance (node : Node) : Decidable (OwesVerdict node) :=
  inferInstanceAs (Decidable (_ ∧ _ ∧ _ ∧ (_ ∨ _) ∧ _))

theorem isCallable_iff (kind : Entity.Kind) :
    kind.isCallable = true ↔ kind = .function ∨ kind = .memberFunction := by
  cases kind <;> simp [Entity.Kind.isCallable]

theorem isJudged_iff (node : Node) : isJudged node = true ↔ OwesVerdict node := by
  simp [isJudged, isShielded, isCandidate, OwesVerdict, isCallable_iff, and_assoc]

theorem isJudged_eq_decide : (isJudged : Node → Bool) = fun node => decide (OwesVerdict node) := by
  funext node
  rw [Bool.eq_iff_iff, isJudged_iff, decide_eq_true_iff]

namespace Pending

/-- The sequence for which a stack stands. -/
def sequence (pending : Pending Node) : List Node :=
  pending.stack.flatMap preorder

theorem sequence_cons (node : Node) (rest : List Node) :
    sequence ⟨node :: rest⟩ = node :: sequence ⟨children node ++ rest⟩ := by
  simp only [sequence, List.flatMap_cons, List.flatMap_append]
  rw [preorder_eq, List.cons_append]

/-- What one call finds is the first judged node of the sequence, and what it leaves behind stands
for the part after it. -/
theorem sequence_filter_of_next? (pending : Pending Node) :
    pending.sequence.filter isJudged =
      match pending.next? with
      | none => []
      | some (node, rest) => node :: rest.sequence.filter isJudged := by
  fun_induction next? pending with
  | case1 => rfl
  | case2 node rest hjudged => rw [sequence_cons, List.filter_cons_of_pos hjudged]
  | case3 node rest hjudged ih => rw [sequence_cons, List.filter_cons_of_neg hjudged, ih]

theorem toList_of_next?_eq_none {pending : Pending Node} (hnext : pending.next? = none) :
    pending.toList = [] := by
  rw [toList]
  split
  · rfl
  · next hsome => rw [hnext] at hsome; cases hsome

theorem toList_of_next? {pending rest : Pending Node} {node : Node}
    (hnext : pending.next? = some (node, rest)) : pending.toList = node :: rest.toList := by
  rw [toList]
  split
  · next hnone => rw [hnext] at hnone; cases hnone
  · next hsome => rw [hnext] at hsome; cases hsome; rfl

theorem toList_eq (pending : Pending Node) :
    pending.toList = pending.sequence.filter isJudged := by
  fun_induction toList pending with
  | case1 pending hnext => rw [sequence_filter_of_next?, hnext]
  | case2 pending node rest hnext ih => rw [sequence_filter_of_next?, hnext, ih]

end Pending

theorem judged_eq (root : Node) :
    judged root = (preorder root).filter fun node => decide (OwesVerdict node) := by
  rw [judged, Pending.toList_eq, isJudged_eq_decide]
  simp [Pending.sequence, Pending.start]

theorem mem_judged_iff {node root : Node} :
    node ∈ judged root ↔ node ∈ preorder root ∧ OwesVerdict node := by
  rw [judged_eq, List.mem_filter, decide_eq_true_iff]

end NamingCheck.EntityTree
