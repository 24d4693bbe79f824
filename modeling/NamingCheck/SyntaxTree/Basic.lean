import NamingCheck.OrderedTree
import NamingCheck.SyntaxTree.Kind

/-!
Concrete syntax trees over a source text.

A node knows the field it fills in its parent and the bytes it covers. Everything below a node is
reached through `child?`, `namedChildren` and the two lookups built from them, all of which give
nodes of smaller size.
-/

namespace NamingCheck

structure SyntaxNode where
  kind : SyntaxKind
  field : Option SyntaxField
  /-- Zero-based row of the first character. -/
  row : Nat
  start : Nat
  stop : Nat
  isNamed : Bool
  isError : Bool
  isMissing : Bool
  /-- Whether the node, or one below it, is an error or missing. -/
  hasError : Bool
  children : List SyntaxNode
  deriving Inhabited, Repr

namespace SyntaxNode

def size : SyntaxNode → Nat
  | { children, .. } => 1 + sizeAll children
where
  sizeAll : List SyntaxNode → Nat
    | [] => 0
    | first :: rest => size first + sizeAll rest

theorem size_sizeAll (nodes : List SyntaxNode) : size.sizeAll nodes = total size nodes := by
  induction nodes with
  | nil => rfl
  | cons first rest ih => rw [size.sizeAll, ih, total_cons]

theorem size_eq (node : SyntaxNode) : node.size = 1 + total size node.children := by
  cases node
  rw [size, size_sizeAll]

instance : OrderedTree SyntaxNode where
  children := SyntaxNode.children
  weight := size
  weight_children_lt node := by rw [size_eq]; omega

theorem size_lt_of_mem_children {child node : SyntaxNode} (hmem : child ∈ node.children) :
    child.size < node.size :=
  @OrderedTree.weight_lt_of_mem_children SyntaxNode _ child node hmem

def namedChildren (node : SyntaxNode) : List SyntaxNode :=
  node.children.filter (·.isNamed)

def childrenIn (node : SyntaxNode) (field : SyntaxField) : List SyntaxNode :=
  node.children.filter fun child => child.field == some field

/-- The first child in the field. -/
def child? (node : SyntaxNode) (field : SyntaxField) : Option SyntaxNode :=
  node.children.find? fun child => child.field == some field

theorem field_eq_of_child? {child node : SyntaxNode} {field : SyntaxField}
    (hchild : node.child? field = some child) : child.field = some field := by
  have hfield := List.find?_some hchild
  exact beq_iff_eq.1 hfield

theorem mem_childrenIn_of_child? {child node : SyntaxNode} {field : SyntaxField}
    (hchild : node.child? field = some child) : child ∈ node.childrenIn field := by
  rw [childrenIn, List.mem_filter, beq_iff_eq]
  exact ⟨List.mem_of_find?_eq_some hchild, field_eq_of_child? hchild⟩

theorem size_lt_of_mem_namedChildren {child node : SyntaxNode}
    (hmem : child ∈ node.namedChildren) : child.size < node.size :=
  size_lt_of_mem_children (List.mem_filter.1 hmem).1

theorem size_lt_of_child? {child node : SyntaxNode} {field : SyntaxField}
    (hchild : node.child? field = some child) : child.size < node.size :=
  size_lt_of_mem_children (List.mem_of_find?_eq_some hchild)

/-- The declarator that a wrapping layer is put around. An attribute layer has no field for it. -/
def wrapped? (node : SyntaxNode) : Option SyntaxNode :=
  (node.child? .declarator).or node.namedChildren.getLast?

theorem mem_children_of_wrapped? {child node : SyntaxNode}
    (hchild : node.wrapped? = some child) : child ∈ node.children := by
  rw [wrapped?, Option.or_eq_some_iff] at hchild
  rcases hchild with hchild | ⟨_, hchild⟩
  · exact List.mem_of_find?_eq_some hchild
  · exact (List.mem_filter.1 (List.mem_of_getLast? hchild)).1

theorem size_lt_of_wrapped? {child node : SyntaxNode}
    (hchild : node.wrapped? = some child) : child.size < node.size :=
  size_lt_of_mem_children (mem_children_of_wrapped? hchild)

/-- The class or enum that the node's type defines here, if it does. -/
def definedType? (node : SyntaxNode) : Option SyntaxNode :=
  (node.child? .type).filter fun type =>
    (type.child? .body).isSome && (type.kind.isClassLike || type.kind == .enumSpecifier)

theorem size_lt_of_definedType? {type node : SyntaxNode}
    (htype : node.definedType? = some type) : type.size < node.size :=
  size_lt_of_child? (Option.filter_eq_some_iff.1 htype).1

/-- The named children of the node's body. -/
def memberNodes (node : SyntaxNode) : List SyntaxNode :=
  ((node.child? .body).map namedChildren).getD []

theorem size_lt_of_mem_memberNodes {child node : SyntaxNode}
    (hmem : child ∈ node.memberNodes) : child.size < node.size := by
  unfold memberNodes at hmem
  cases hbody : node.child? .body with
  | none =>
      rw [hbody] at hmem
      cases hmem
  | some body =>
      rw [hbody] at hmem
      exact Nat.lt_trans (size_lt_of_mem_namedChildren hmem) (size_lt_of_child? hbody)

/-- One-based line of the first character. -/
def line (node : SyntaxNode) : UInt32 := UInt32.ofNat node.row + 1

/-- The covered text; nothing where the bytes are not UTF-8. -/
def text (source : ByteArray) (node : SyntaxNode) : String :=
  (String.fromUTF8? (source.extract node.start node.stop)).getD ""

def chars (source : ByteArray) (node : SyntaxNode) : List Char :=
  (node.text source).toList

/-- A tree for the empty text. -/
def blank : SyntaxNode where
  kind := .other "translation_unit"
  field := none
  row := 0
  start := 0
  stop := 0
  isNamed := true
  isError := false
  isMissing := false
  hasError := false
  children := []

def isFaulty (node : SyntaxNode) : Bool := node.isError || node.isMissing

/-- Looks for the first error or missing node only where a flag promises one. -/
def firstFaultLine? (node : SyntaxNode) : Option UInt32 :=
  if node.isFaulty then some node.line
  else (node.children.filter (·.hasError)).attach.findSome? fun child => firstFaultLine? child.1
termination_by node.size
decreasing_by exact size_lt_of_mem_children (List.mem_filter.1 child.2).1

theorem firstFaultLine?_eq (node : SyntaxNode) :
    node.firstFaultLine? =
      if node.isFaulty then some node.line
      else (node.children.filter (·.hasError)).findSome? firstFaultLine? := by
  rw [firstFaultLine?]
  congr 1
  conv => rhs; rw [← List.attach_map_subtype_val (node.children.filter _), List.findSome?_map]
  rfl

/-- The line of the first syntax error that the parser recovered from. -/
def errorLine? (root : SyntaxNode) : Option UInt32 :=
  if root.hasError then root.firstFaultLine? else none

end SyntaxNode

end NamingCheck
