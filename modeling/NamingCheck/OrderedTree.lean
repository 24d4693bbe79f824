/-!
Finite ordered trees, seen only through the children of a node.

A node carries a weight that exceeds the summed weights of its children. The weight bounds both a
recursive descent and a walk that keeps its pending nodes on a stack.
-/

universe u

namespace NamingCheck

/-- The sum of a measure over the items of a list. -/
def total {α : Type u} (measure : α → Nat) : List α → Nat
  | [] => 0
  | first :: rest => measure first + total measure rest

section Total

variable {α : Type u} {measure : α → Nat}

@[simp]
theorem total_nil : total measure [] = 0 := rfl

@[simp]
theorem total_cons (first : α) (rest : List α) :
    total measure (first :: rest) = measure first + total measure rest := rfl

@[simp]
theorem total_append (left right : List α) :
    total measure (left ++ right) = total measure left + total measure right := by
  induction left with
  | nil => simp
  | cons first rest ih =>
      simp only [List.cons_append, total_cons, ih]
      omega

theorem total_map {β : Type u} (f : β → α) (items : List β) :
    total measure (items.map f) = total (fun item => measure (f item)) items := by
  induction items with
  | nil => rfl
  | cons first rest ih => rw [List.map_cons, total_cons, total_cons, ih]

theorem le_total_of_mem {item : α} {items : List α} (hmem : item ∈ items) :
    measure item ≤ total measure items := by
  induction items with
  | nil => cases hmem
  | cons first rest ih =>
      rw [total_cons]
      cases hmem with
      | head => omega
      | tail _ hrest => exact Nat.le_trans (ih hrest) (Nat.le_add_left ..)

theorem total_eq_zero_iff {items : List α} :
    total measure items = 0 ↔ ∀ item ∈ items, measure item = 0 := by
  induction items with
  | nil => simp
  | cons first rest ih => rw [total_cons, Nat.add_eq_zero_iff, ih, List.forall_mem_cons]

theorem total_le_total {larger : α → Nat} {items : List α}
    (hle : ∀ item ∈ items, measure item ≤ larger item) :
    total measure items ≤ total larger items := by
  induction items with
  | nil => exact Nat.le_refl _
  | cons first rest ih =>
      rw [List.forall_mem_cons] at hle
      exact Nat.add_le_add hle.1 (ih hle.2)

theorem total_congr {same : α → Nat} {items : List α}
    (hsame : ∀ item ∈ items, measure item = same item) : total measure items = total same items :=
  Nat.le_antisymm (total_le_total fun item hitem => Nat.le_of_eq (hsame item hitem))
    (total_le_total fun item hitem => Nat.le_of_eq (hsame item hitem).symm)

theorem length_flatMap_eq_total {β : Type u} (f : α → List β) (items : List α) :
    (items.flatMap f).length = total (fun item => (f item).length) items := by
  induction items with
  | nil => rfl
  | cons first rest ih => rw [List.flatMap_cons, List.length_append, total_cons, ih]

theorem length_filter_eq_total (p : α → Bool) (items : List α) :
    (items.filter p).length = total (fun item => if p item then 1 else 0) items := by
  induction items with
  | nil => rfl
  | cons first rest ih =>
      by_cases hfirst : p first = true
      · rw [List.filter_cons_of_pos hfirst, List.length_cons, ih, total_cons, if_pos hfirst,
          Nat.add_comm]
      · rw [List.filter_cons_of_neg hfirst, ih, total_cons, if_neg hfirst, Nat.zero_add]

end Total

class OrderedTree (Node : Type u) where
  children : Node → List Node
  weight : Node → Nat
  weight_children_lt : ∀ node, total weight (children node) < weight node

namespace OrderedTree

variable {Node : Type u} [OrderedTree Node]

theorem weight_lt_of_mem_children {child node : Node} (hmem : child ∈ children node) :
    weight child < weight node :=
  Nat.lt_of_le_of_lt (le_total_of_mem hmem) (weight_children_lt node)

/-- Every node below and including `node`, parents before children, siblings in order. -/
def preorder (node : Node) : List Node :=
  node :: (children node).flatMap fun child => preorder child
termination_by weight node
decreasing_by exact weight_lt_of_mem_children ‹_›

theorem preorder_eq (node : Node) :
    preorder node = node :: (children node).flatMap preorder := by
  rw [preorder]

theorem self_mem_preorder (node : Node) : node ∈ preorder node := by
  rw [preorder_eq]
  exact List.mem_cons_self

theorem mem_preorder_iff {below node : Node} :
    below ∈ preorder node ↔ below = node ∨ ∃ child ∈ children node, below ∈ preorder child := by
  rw [preorder_eq, List.mem_cons, List.mem_flatMap]

theorem mem_preorder_of_mem_children {below child node : Node} (hchild : child ∈ children node)
    (hbelow : below ∈ preorder child) : below ∈ preorder node :=
  mem_preorder_iff.2 (Or.inr ⟨child, hchild, hbelow⟩)

theorem preorder_subset_of_mem {below : Node} (node : Node) (hbelow : below ∈ preorder node) :
    preorder below ⊆ preorder node := by
  rcases mem_preorder_iff.1 hbelow with rfl | ⟨child, hchild, hmem⟩
  · exact List.Subset.refl _
  · intro further hfurther
    exact mem_preorder_of_mem_children hchild (preorder_subset_of_mem child hmem hfurther)
termination_by weight node
decreasing_by exact weight_lt_of_mem_children hchild

end OrderedTree

end NamingCheck
