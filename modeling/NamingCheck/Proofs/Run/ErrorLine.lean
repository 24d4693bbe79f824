import Mathlib.Data.List.Basic
import NamingCheck.Proofs.SyntaxTree.Faults
import NamingCheck.Run.LoadedFile

/-!
# The line of the first error

A search that enters every child, whatever the flags say, is the search of the nodes in pre-order. A
child without the flag has nothing to offer to it, so leaving such children out makes no difference,
and the line that a source is loaded with is that of the first fault.
-/

namespace NamingCheck

open OrderedTree (preorder preorder_eq)

namespace SyntaxNode

/-- The search that trusts no flag. -/
def plainFaultLine? (node : SyntaxNode) : Option UInt32 :=
  if node.isFaulty then some node.line
  else node.children.attach.findSome? fun child => plainFaultLine? child.1
termination_by node.size
decreasing_by exact size_lt_of_mem_children child.2

theorem plainFaultLine?_eq (node : SyntaxNode) :
    node.plainFaultLine? =
      if node.isFaulty then some node.line else node.children.findSome? plainFaultLine? := by
  rw [plainFaultLine?]
  congr 1
  conv => rhs; rw [← List.attach_map_subtype_val node.children, List.findSome?_map]
  rfl

theorem plainFaultLine?_eq_find? (root : SyntaxNode) :
    root.plainFaultLine? = ((preorder root).find? isFaulty).map line := by
  rw [plainFaultLine?_eq, preorder_eq, List.find?_cons]
  by_cases hfaulty : root.isFaulty = true
  · simp [hfaulty]
  · have hchildren : root.children.findSome? plainFaultLine? =
        root.children.findSome? fun child => ((preorder child).find? isFaulty).map line := by
      rw [← List.head?_filterMap, ← List.head?_filterMap]
      apply congrArg
      apply List.filterMap_congr
      intro child hchild
      exact plainFaultLine?_eq_find? child
    rw [if_neg hfaulty, hchildren]
    simp only [hfaulty, List.find?_flatMap, List.map_findSome?]
    rfl
termination_by root.size
decreasing_by exact size_lt_of_mem_children ‹_›

theorem errorLine?_eq_plainFaultLine? {root : SyntaxNode} (hflags : root.HasFaithfulFlags) :
    root.errorLine? = root.plainFaultLine? := by
  rw [errorLine?_eq_find? hflags.flagsAllFaults, plainFaultLine?_eq_find?]

/-- A fault with no fault before it in pre-order. -/
structure IsFirstFault (root first : SyntaxNode) : Prop where
  isFaulty : first.isFaulty = true
  none_before : ∃ before after, preorder root = before ++ first :: after ∧
    ∀ node ∈ before, node.isFaulty = false

theorem isFirstFault_iff {root first : SyntaxNode} :
    root.IsFirstFault first ↔ (preorder root).find? SyntaxNode.isFaulty = some first := by
  rw [List.find?_eq_some_iff_append]
  simp only [Bool.not_eq_eq_eq_not, Bool.not_true]
  exact ⟨fun h => ⟨h.isFaulty, h.none_before⟩, fun h => ⟨h.1, h.2⟩⟩

/-- No node stands on an earlier row than a node before it in pre-order. -/
def RowsAscend (root : SyntaxNode) : Prop :=
  (preorder root).Pairwise fun earlier later => earlier.row ≤ later.row

instance (root : SyntaxNode) : Decidable root.RowsAscend :=
  inferInstanceAs (Decidable (List.Pairwise _ _))

theorem IsFirstFault.row_le {root first fault : SyntaxNode} (hfirst : root.IsFirstFault first)
    (hrows : root.RowsAscend) (hmem : fault ∈ preorder root) (hfault : fault.isFaulty = true) :
    first.row ≤ fault.row := by
  obtain ⟨before, after, hsplit, hclean⟩ := hfirst.none_before
  rw [RowsAscend, hsplit, List.pairwise_append, List.pairwise_cons] at hrows
  rw [hsplit] at hmem
  rcases List.mem_append.1 hmem with hbefore | hbehind
  · rw [hclean fault hbefore] at hfault
    cases hfault
  · rcases List.mem_cons.1 hbehind with rfl | hafter
    · exact Nat.le_refl _
    · exact hrows.2.1.1 fault hafter

/-- Lines are counted in 32 bits, so the last row of all has no line of its own. -/
theorem toNat_line {node : SyntaxNode} (hrow : node.row + 1 < UInt32.size) :
    node.line.toNat = node.row + 1 := by
  have hofNat : (UInt32.ofNat node.row).toNat = node.row :=
    UInt32.toNat_ofNat_of_lt (by omega)
  rw [line, UInt32.toNat_add, hofNat]
  exact Nat.mod_eq_of_lt hrow

theorem line_le_line {first fault : SyntaxNode} (hle : first.row ≤ fault.row)
    (hrow : fault.row + 1 < UInt32.size) : first.line ≤ fault.line := by
  rw [UInt32.le_iff_toNat_le, toNat_line hrow, toNat_line (by omega)]
  omega

end SyntaxNode

namespace LoadedFile

/-- Where errors are not fatal every source is loaded; where they are, just those with no line of an
error, and the others are refused at this line. -/
theorem exists_ofSource (path : String) (content : SourceFile) :
    ∃ parsed, ofSource path content false = .ok parsed ∧
      parsed.errorLine = content.tree.errorLine? ∧
      ofSource path content true =
        match parsed.errorLine with
        | none => .ok parsed
        | some line => .error (.syntaxError path line) := by
  refine ⟨{ root := Lowering.fileEntity content.bytes path content.tree
            errorLine := content.tree.errorLine? }, rfl, rfl, ?_⟩
  unfold ofSource
  cases content.tree.errorLine? <;> rfl

/-- A source is loaded with the line of the first fault in pre-order, if it has a fault, just as if
no flag had been looked at. Where the rows ascend no fault stands on an earlier line. -/
theorem ofSource_firstFault {content : SourceFile} (hflags : content.tree.HasFaithfulFlags)
    (path : String) :
    ∃ parsed, ofSource path content false = .ok parsed ∧
      (ofSource path content true =
        match parsed.errorLine with
        | none => .ok parsed
        | some line => .error (.syntaxError path line)) ∧
      parsed.errorLine = content.tree.plainFaultLine? ∧
      ((∃ line, parsed.errorLine = some line) ↔
        ∃ fault ∈ preorder content.tree, fault.isFaulty = true) ∧
      ∀ line, parsed.errorLine = some line →
        ∃ first, content.tree.IsFirstFault first ∧ line = UInt32.ofNat first.row + 1 ∧
          (first.row + 1 < UInt32.size → line.toNat = first.row + 1) ∧
          (content.tree.RowsAscend →
            ∀ fault ∈ preorder content.tree, fault.isFaulty = true →
              first.row ≤ fault.row ∧ (fault.row + 1 < UInt32.size → line ≤ fault.line)) := by
  obtain ⟨parsed, hloaded, hline, hfatal⟩ := exists_ofSource path content
  refine ⟨parsed, hloaded, hfatal, ?_, ?_, ?_⟩
  · rw [hline]
    exact SyntaxNode.errorLine?_eq_plainFaultLine? hflags
  · rw [hline]
    exact SyntaxNode.exists_errorLine?_iff hflags.flagsAllFaults
  · intro line hsome
    rw [hline, SyntaxNode.errorLine?_eq_find? hflags.flagsAllFaults,
      Option.map_eq_some_iff] at hsome
    obtain ⟨first, hfind, rfl⟩ := hsome
    have hfirst : content.tree.IsFirstFault first := SyntaxNode.isFirstFault_iff.2 hfind
    refine ⟨first, hfirst, rfl, SyntaxNode.toNat_line, ?_⟩
    intro hrows fault hmem hfault
    have hle := hfirst.row_le hrows hmem hfault
    exact ⟨hle, SyntaxNode.line_le_line hle⟩

/-- A clean subtree, then on the second row a missing token below a node without faults of its own,
and on the third row an error. -/
def faultyTree : SyntaxNode :=
  { SyntaxNode.blank with
    hasError := true
    children :=
      [{ SyntaxNode.blank with children := [SyntaxNode.blank] },
        { SyntaxNode.blank with
          row := 1
          hasError := true
          children :=
            [{ SyntaxNode.blank with
               row := 1
               isNamed := false
               isMissing := true
               hasError := true }] },
        { SyntaxNode.blank with
          row := 2
          isError := true
          hasError := true }] }

theorem ofSource_firstFault_missing :
    ∃ parsed, ofSource "a.cpp" ⟨ByteArray.empty, faultyTree⟩ false = .ok parsed ∧
      parsed.errorLine = some 2 ∧
      ∀ fault ∈ preorder faultyTree, fault.isFaulty = true → 1 ≤ fault.row := by
  have hflags : faultyTree.HasFaithfulFlags := by
    unfold SyntaxNode.HasFaithfulFlags
    decide +kernel
  have hrows : faultyTree.RowsAscend := by
    decide +kernel
  obtain ⟨parsed, hloaded, -, -, hiff, hfirst⟩ :=
    @ofSource_firstFault ⟨ByteArray.empty, faultyTree⟩ hflags "a.cpp"
  obtain ⟨line, hline⟩ := hiff.2 (by decide +kernel)
  obtain ⟨first, hisFirst, rfl, -, hleast⟩ := hfirst line hline
  have hrow : first.row = 1 := by
    have hfind := SyntaxNode.isFirstFault_iff.1 hisFirst
    have hrowOf : ((preorder faultyTree).find? SyntaxNode.isFaulty).map (·.row) = some 1 := by
      decide +kernel
    rw [hfind] at hrowOf
    exact Option.some.inj hrowOf
  refine ⟨parsed, hloaded, ?_, ?_⟩
  · rw [hline, hrow]
    rfl
  · intro fault hmem hfault
    rw [← hrow]
    exact (hleast hrows fault hmem hfault).1

end LoadedFile

end NamingCheck
