import NamingCheck.SyntaxTree.Basic

/-!
# The first fault of a syntax tree

The search for the first error or missing node enters only the children whose flag promises one.
Where no flag is lacking this is the search of all nodes in pre-order; a flag that promises too much
does no harm.
-/

namespace NamingCheck.SyntaxNode

open OrderedTree (preorder preorder_eq mem_preorder_iff mem_preorder_of_mem_children)

/-- The flag of each node tells whether an error or a missing node is there or below. -/
def HasFaithfulFlags (root : SyntaxNode) : Prop :=
  ∀ node ∈ preorder root,
    node.hasError = true ↔ ∃ fault ∈ preorder node, fault.isFaulty = true

/-- Each node with an error or a missing node at or below it has the flag. -/
def FlagsAllFaults (root : SyntaxNode) : Prop :=
  ∀ node ∈ preorder root, ∀ fault ∈ preorder node, fault.isFaulty = true → node.hasError = true

theorem HasFaithfulFlags.flagsAllFaults {root : SyntaxNode} (hflags : root.HasFaithfulFlags) :
    root.FlagsAllFaults :=
  fun node hnode fault hfault hfaulty => (hflags node hnode).2 ⟨fault, hfault, hfaulty⟩

theorem FlagsAllFaults.of_mem_children {child root : SyntaxNode} (hflags : root.FlagsAllFaults)
    (hchild : child ∈ root.children) : child.FlagsAllFaults :=
  fun node hnode => hflags node (mem_preorder_of_mem_children hchild hnode)

theorem find?_isFaulty_eq_none_of_hasError_eq_false {root : SyntaxNode}
    (hflags : root.FlagsAllFaults) (hclean : root.hasError = false) :
    (preorder root).find? isFaulty = none := by
  rw [List.find?_eq_none]
  intro fault hfault hfaulty
  rw [hflags root (OrderedTree.self_mem_preorder root) fault hfault hfaulty] at hclean
  cases hclean

/-- Nodes without the flag may be left out of a search that finds nothing in them. -/
theorem findSome?_filter_hasError {f g : SyntaxNode → Option UInt32} {nodes : List SyntaxNode}
    (hagree : ∀ node ∈ nodes, f node = g node)
    (hnone : ∀ node ∈ nodes, node.hasError = false → g node = none) :
    (nodes.filter (·.hasError)).findSome? f = nodes.findSome? g := by
  induction nodes with
  | nil => rfl
  | cons first rest ih =>
      have hfirst := hagree first List.mem_cons_self
      have hrest := ih (fun node hnode => hagree node (List.mem_cons_of_mem first hnode))
        (fun node hnode => hnone node (List.mem_cons_of_mem first hnode))
      by_cases herror : first.hasError = true
      · rw [List.filter_cons_of_pos herror, List.findSome?_cons, List.findSome?_cons, hfirst, hrest]
      · rw [List.filter_cons_of_neg herror, List.findSome?_cons,
          hnone first List.mem_cons_self (Bool.eq_false_iff.2 herror), hrest]

theorem firstFaultLine?_eq_find? (root : SyntaxNode) (hflags : root.FlagsAllFaults) :
    root.firstFaultLine? = ((preorder root).find? isFaulty).map line := by
  rw [firstFaultLine?_eq, preorder_eq, List.find?_cons]
  by_cases hfaulty : root.isFaulty = true
  · simp [hfaulty]
  · have hchildren (child : SyntaxNode) (hchild : child ∈ root.children) :
        child.firstFaultLine? = ((preorder child).find? isFaulty).map line :=
      firstFaultLine?_eq_find? child (hflags.of_mem_children hchild)
    have hclean (child : SyntaxNode) (hchild : child ∈ root.children)
        (herror : child.hasError = false) :
        ((preorder child).find? isFaulty).map line = none := by
      rw [find?_isFaulty_eq_none_of_hasError_eq_false (hflags.of_mem_children hchild) herror]
      rfl
    rw [if_neg hfaulty, findSome?_filter_hasError hchildren hclean]
    simp only [hfaulty, List.find?_flatMap, List.map_findSome?]
    rfl
termination_by root.size
decreasing_by exact size_lt_of_mem_children ‹_›

/-- The reported line is that of the first fault in pre-order, if there is a fault. -/
theorem errorLine?_eq_find? {root : SyntaxNode} (hflags : root.FlagsAllFaults) :
    root.errorLine? = ((preorder root).find? isFaulty).map line := by
  rw [errorLine?]
  cases herror : root.hasError with
  | true => exact firstFaultLine?_eq_find? root hflags
  | false =>
      rw [find?_isFaulty_eq_none_of_hasError_eq_false hflags herror]
      rfl

theorem errorLine?_eq_none_iff {root : SyntaxNode} (hflags : root.FlagsAllFaults) :
    root.errorLine? = none ↔ ∀ node ∈ preorder root, node.isFaulty = false := by
  rw [errorLine?_eq_find? hflags, Option.map_eq_none_iff, List.find?_eq_none]
  simp only [Bool.not_eq_true]

theorem exists_errorLine?_iff {root : SyntaxNode} (hflags : root.FlagsAllFaults) :
    (∃ line, root.errorLine? = some line) ↔ ∃ fault ∈ preorder root, fault.isFaulty = true := by
  rw [← Option.ne_none_iff_exists', Ne, errorLine?_eq_none_iff hflags]
  simp only [Classical.not_forall, Bool.not_eq_false, exists_prop]

end NamingCheck.SyntaxNode
