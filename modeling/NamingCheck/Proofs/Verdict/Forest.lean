import Mathlib.Data.List.Basic
import NamingCheck.Proofs.Entity.Preorder
import NamingCheck.Verdict.Policy

/-!
# The verdicts on a forest

The verdicts on a tree are the one that its root owes, if it owes one, and those on the forest
below.
-/

universe u

namespace NamingCheck.Policy

open EntityTree (OwesVerdict isCallable_iff judged_eq kind)
open OrderedTree (children preorder preorder_eq)

variable {Node : Type u} [EntityTree Node] (policy : Policy)

theorem mem_verdicts_iff {verdict : Verdict} {root : Node} :
    verdict ∈ policy.verdicts root ↔
      ∃ node ∈ preorder root, OwesVerdict node ∧ policy.verdict node = verdict := by
  simp only [verdicts, List.mem_map, EntityTree.mem_judged_iff, and_assoc]

/-- The verdict that a node gets for its own name, if it owes one. -/
def ownVerdict? (node : Node) : Option Verdict :=
  if OwesVerdict node then some (policy.verdict node) else none

theorem verdicts_eq_filterMap (root : Node) :
    policy.verdicts root = (preorder root).filterMap policy.ownVerdict? := by
  rw [verdicts, judged_eq]
  induction preorder root with
  | nil => rfl
  | cons first rest ih =>
      rw [List.filter_cons, List.filterMap_cons, ownVerdict?]
      by_cases howes : OwesVerdict first <;> simp [howes, ih]

/-- The verdicts on several trees, one tree after the other. -/
def forestVerdicts (nodes : List Node) : List Verdict :=
  nodes.flatMap policy.verdicts

@[simp]
theorem forestVerdicts_nil : policy.forestVerdicts ([] : List Node) = [] := rfl

theorem forestVerdicts_singleton (node : Node) :
    policy.forestVerdicts [node] = policy.verdicts node :=
  List.flatMap_singleton _ _

theorem forestVerdicts_cons (first : Node) (rest : List Node) :
    policy.forestVerdicts (first :: rest) = policy.verdicts first ++ policy.forestVerdicts rest :=
  List.flatMap_cons

theorem forestVerdicts_flatMap {α : Type} (items : List α) (f : α → List Node) :
    policy.forestVerdicts (items.flatMap f) =
      items.flatMap fun item => policy.forestVerdicts (f item) :=
  List.flatMap_assoc

/-- The root first, then what is below it. -/
theorem verdicts_eq (root : Node) :
    policy.verdicts root =
      (if OwesVerdict root then [policy.verdict root] else []) ++
        policy.forestVerdicts (children root) := by
  have hbelow : policy.forestVerdicts (children root) =
      (((children root).flatMap preorder).filter fun node => decide (OwesVerdict node)).map
        policy.verdict := by
    rw [forestVerdicts, List.filter_flatMap, List.map_flatMap]
    apply List.flatMap_congr
    intro child _
    rw [verdicts, judged_eq]
  rw [hbelow, verdicts, judged_eq, preorder_eq, List.filter_cons]
  by_cases howes : OwesVerdict root <;> simp [howes]

/-- A tree whose root owes no verdict may be taken for the forest below it. -/
theorem verdicts_of_not_owesVerdict {root : Node} (howes : ¬OwesVerdict root) :
    policy.verdicts root = policy.forestVerdicts (children root) := by
  rw [verdicts_eq, if_neg howes, List.nil_append]

theorem verdicts_of_isCallable_eq_false {root : Node} (hkind : (kind root).isCallable = false) :
    policy.verdicts root = policy.forestVerdicts (children root) := by
  refine policy.verdicts_of_not_owesVerdict ?_
  rintro ⟨-, -, -, hcallable, -⟩
  rw [(isCallable_iff _).2 hcallable] at hkind
  cases hkind

end NamingCheck.Policy
