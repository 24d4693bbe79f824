import Mathlib.Data.List.Flatten
import Mathlib.Logic.Relation
import Mathlib.Tactic.Common
import NamingCheck.Lowering

/-!
# The nodes that the lowering visits

`Step` says from which node to which other the lowering goes on, one rule for each kind of
container; all else, bodies of functions above all, is never entered. `steps` lists the same nodes
in order, and `visited` lists the nodes to which steps lead from the root, a node after those to
which it leads. It is what remains of the post-order of the tree without the nodes not visited, so
none is visited twice.
-/

namespace NamingCheck

namespace SyntaxNode

/-- Every node below and including this one, a node after all below it, siblings in order. -/
def postorder (node : SyntaxNode) : List SyntaxNode :=
  (node.children.attach.flatMap fun child => postorder child.1) ++ [node]
termination_by node.size
decreasing_by exact size_lt_of_mem_children child.2

/-- The nodes below this one, in post-order. -/
def descendants (node : SyntaxNode) : List SyntaxNode :=
  node.children.flatMap postorder

theorem postorder_eq (node : SyntaxNode) : node.postorder = node.descendants ++ [node] := by
  rw [postorder, Lowering.flatMap_attach_val, descendants]

theorem descendants_sublist_postorder (node : SyntaxNode) : node.descendants.Sublist node.postorder := by
  rw [postorder_eq]
  exact List.sublist_append_left node.descendants [node]

section Walk

variable {α : Type} {walk : SyntaxNode → List α} {node : SyntaxNode}

theorem flatMap_namedChildren_sublist (walk : SyntaxNode → List α) (node : SyntaxNode) :
    (node.namedChildren.flatMap walk).Sublist (node.children.flatMap walk) :=
  List.filter_sublist.flatMap walk

theorem walk_sublist_flatMap_of_mem {nodes : List SyntaxNode} (walk : SyntaxNode → List α)
    (hmem : node ∈ nodes) : (walk node).Sublist (nodes.flatMap walk) := by
  have hone : [node].Sublist nodes := List.singleton_sublist.2 hmem
  simpa only [List.flatMap_singleton] using hone.flatMap walk

theorem walk_sublist_of_child? {child : SyntaxNode} {field : SyntaxField}
    (walk : SyntaxNode → List α) (hchild : node.child? field = some child) :
    (walk child).Sublist (node.children.flatMap walk) :=
  walk_sublist_flatMap_of_mem walk (List.mem_of_find?_eq_some hchild)

end Walk

end SyntaxNode

namespace Lowering

open Relation (ReflTransGen)
open SyntaxNode (postorder)

/-- The kinds that are passed through to their named children. -/
def passedThrough : List SyntaxKind :=
  [.declarationList, .fieldDeclarationList, .preprocIf, .preprocIfdef, .preprocElse, .preprocElif,
    .preprocElifdef, .error, .friendDeclaration]

def withMembers : List SyntaxKind :=
  [.namespaceDefinition, .classSpecifier, .structSpecifier, .unionSpecifier]

def withType : List SyntaxKind :=
  [.declaration, .fieldDeclaration, .typeDefinition, .templateInstantiation]

def definable : List SyntaxKind :=
  [.classSpecifier, .structSpecifier, .unionSpecifier, .enumSpecifier]

/-- The kinds that are taken up in some way. All other nodes declare nothing. -/
def entered : List SyntaxKind :=
  passedThrough ++ withMembers ++ withType ++
    [.functionDefinition, .linkageSpecification, .enumSpecifier, .templateDeclaration]

theorem lower_eq_nil {node : SyntaxNode} (source : ByteArray) (hkind : node.kind ∉ entered)
    (owner : Option String) : lower source node owner = [] := by
  rw [lower_eq]
  split
  case h_22 => rfl
  all_goals
    next heq =>
      rw [heq] at hkind
      exact absurd (by decide) hkind

/-- Around the inner nodes the list has only nodes that declare nothing. -/
def Among (inner whole : List SyntaxNode) : Prop :=
  ∃ before after, whole = before ++ inner ++ after ∧
    ∀ child ∈ before ++ after, child.kind ∉ entered

theorem Among.filter {inner whole : List SyntaxNode} (hamong : Among inner whole)
    (kept : SyntaxNode → Bool) : Among (inner.filter kept) (whole.filter kept) := by
  obtain ⟨before, after, rfl, hidle⟩ := hamong
  refine ⟨before.filter kept, after.filter kept, by simp only [List.filter_append], ?_⟩
  intro child hchild
  rw [← List.filter_append] at hchild
  exact hidle child (List.mem_filter.1 hchild).1

theorem Among.flatMap {α : Type} {inner whole : List SyntaxNode} (hamong : Among inner whole)
    {f : SyntaxNode → List α} (hidle : ∀ child, child.kind ∉ entered → f child = []) :
    whole.flatMap f = inner.flatMap f := by
  obtain ⟨before, after, rfl, haround⟩ := hamong
  have hbefore : before.flatMap f = [] :=
    List.flatMap_eq_nil_iff.2 fun child hchild =>
      hidle child (haround child (List.mem_append_left after hchild))
  have hafter : after.flatMap f = [] :=
    List.flatMap_eq_nil_iff.2 fun child hchild =>
      hidle child (haround child (List.mem_append_right before hchild))
  rw [List.flatMap_append, List.flatMap_append, hbefore, hafter, List.nil_append, List.append_nil]

/-- The last of the template headers that stand directly one inside the other. -/
inductive LastHeader : SyntaxNode → SyntaxNode → Prop where
  | here {node : SyntaxNode}
      (hnone : node.namedChildren.find? (·.kind == .templateDeclaration) = none) :
      LastHeader node node
  | inside {node nested last : SyntaxNode}
      (hnested : node.namedChildren.find? (·.kind == .templateDeclaration) = some nested)
      (hlast : LastHeader nested last) :
      LastHeader node last

inductive Step : SyntaxNode → SyntaxNode → Prop where
  | through {node child : SyntaxNode}
      (hkind : node.kind ∈ passedThrough)
      (hchild : child ∈ node.namedChildren) :
      Step node child
  | member {node body child : SyntaxNode}
      (hkind : node.kind ∈ withMembers)
      (hbody : node.child? .body = some body)
      (hchild : child ∈ body.namedChildren) :
      Step node child
  | linked {node body : SyntaxNode}
      (hkind : node.kind = .linkageSpecification)
      (hbody : node.child? .body = some body) :
      Step node body
  /-- A type is entered where it is defined, not where it is only named. -/
  | defined {node type body : SyntaxNode}
      (hkind : node.kind ∈ withType)
      (htype : node.child? .type = some type)
      (hdefinable : type.kind ∈ definable)
      (hbody : type.child? .body = some body) :
      Step node type
  | templated {node last child : SyntaxNode}
      (hkind : node.kind = .templateDeclaration)
      (hlast : LastHeader node last)
      (hchild : child ∈ last.namedChildren)
      (hparameters : child.kind ≠ .templateParameterList) :
      Step node child

/-- The nodes to which one step leads, in the order in which they are entered. -/
def steps (node : SyntaxNode) : List SyntaxNode :=
  if node.kind ∈ passedThrough then node.namedChildren
  else if node.kind ∈ withMembers then node.memberNodes
  else if node.kind = .linkageSpecification then (node.child? .body).toList
  else if node.kind ∈ withType then node.definedType?.toList
  else if node.kind = .templateDeclaration then templateContents node
  else []

theorem lastHeader_templateHeaders (node : SyntaxNode) :
    LastHeader node (templateHeaders node).2 := by
  fun_induction templateHeaders node with
  | case1 node hnone => exact .here hnone
  | case2 node nested hnested layers innermost heq ih =>
      rw [heq] at ih
      exact .inside hnested ih

theorem LastHeader.eq_templateHeaders {node last : SyntaxNode} (hlast : LastHeader node last) :
    last = (templateHeaders node).2 := by
  induction hlast with
  | here hnone => rw [templateHeaders_eq, hnone]
  | inside hnested _ ih => rw [templateHeaders_eq, hnested, ih]

theorem mem_templateContents_iff {child node : SyntaxNode} :
    child ∈ templateContents node ↔
      ∃ last, LastHeader node last ∧ child ∈ last.namedChildren ∧
        child.kind ≠ .templateParameterList := by
  rw [templateContents, List.mem_filter, bne_iff_ne]
  constructor
  · intro hchild
    exact ⟨_, lastHeader_templateHeaders node, hchild⟩
  · rintro ⟨last, hlast, hchild⟩
    rwa [hlast.eq_templateHeaders] at hchild

theorem mem_memberNodes_iff {child node : SyntaxNode} :
    child ∈ node.memberNodes ↔
      ∃ body, node.child? .body = some body ∧ child ∈ body.namedChildren := by
  rw [SyntaxNode.memberNodes]
  cases node.child? .body <;> simp

theorem isDefinable_iff {kind : SyntaxKind} :
    (kind.isClassLike || kind == .enumSpecifier) = true ↔ kind ∈ definable := by
  cases kind <;> simp [SyntaxKind.isClassLike, definable]

theorem definedType?_eq_some_iff {type node : SyntaxNode} :
    node.definedType? = some type ↔
      node.child? .type = some type ∧ type.kind ∈ definable ∧
        ∃ body, type.child? .body = some body := by
  rw [SyntaxNode.definedType?, Option.filter_eq_some_iff, Bool.and_eq_true, isDefinable_iff,
    Option.isSome_iff_exists, and_comm (a := ∃ body, _)]

theorem mem_steps_iff {child node : SyntaxNode} : child ∈ steps node ↔ Step node child := by
  constructor
  · intro hmem
    rw [steps] at hmem
    split_ifs at hmem with hthrough hmembers hlinkage htype htemplate
    · exact .through hthrough hmem
    · obtain ⟨body, hbody, hchild⟩ := mem_memberNodes_iff.1 hmem
      exact .member hmembers hbody hchild
    · exact .linked hlinkage (Option.mem_toList.1 hmem)
    · obtain ⟨hchild, hdefinable, body, hbody⟩ :=
        definedType?_eq_some_iff.1 (Option.mem_toList.1 hmem)
      exact .defined htype hchild hdefinable hbody
    · obtain ⟨last, hlast, hchild, hparameters⟩ := mem_templateContents_iff.1 hmem
      exact .templated htemplate hlast hchild hparameters
    · cases hmem
  · intro hstep
    rw [steps]
    cases hstep with
    | through hkind hchild => rwa [if_pos hkind]
    | member hkind hbody hchild =>
        have hother : ∀ kind ∈ withMembers, kind ∉ passedThrough := by decide
        rw [if_neg (hother _ hkind), if_pos hkind, mem_memberNodes_iff]
        exact ⟨_, hbody, hchild⟩
    | linked hkind hbody =>
        rw [hkind]
        exact Option.mem_toList.2 hbody
    | defined hkind htype hdefinable hbody =>
        have hother : ∀ kind ∈ withType,
            kind ∉ passedThrough ∧ kind ∉ withMembers ∧ kind ≠ .linkageSpecification := by decide
        obtain ⟨hthrough, hmembers, hlinkage⟩ := hother _ hkind
        rw [if_neg hthrough, if_neg hmembers, if_neg hlinkage, if_pos hkind, Option.mem_toList]
        exact definedType?_eq_some_iff.2 ⟨htype, hdefinable, _, hbody⟩
    | templated hkind hlast hchild hparameters =>
        rw [hkind]
        exact mem_templateContents_iff.2 ⟨_, hlast, hchild, hparameters⟩

theorem size_lt_of_mem_steps {child node : SyntaxNode} (hmem : child ∈ steps node) :
    child.size < node.size := by
  rw [steps] at hmem
  split_ifs at hmem
  · exact SyntaxNode.size_lt_of_mem_namedChildren hmem
  · exact SyntaxNode.size_lt_of_mem_memberNodes hmem
  · exact SyntaxNode.size_lt_of_child? (Option.mem_toList.1 hmem)
  · exact SyntaxNode.size_lt_of_definedType? (Option.mem_toList.1 hmem)
  · exact size_lt_of_mem_templateContents hmem
  · cases hmem

/-- The nodes to which steps lead from here, this one after all others. -/
def visitedFrom (node : SyntaxNode) : List SyntaxNode :=
  ((steps node).attach.flatMap fun child => visitedFrom child.1) ++ [node]
termination_by node.size
decreasing_by exact size_lt_of_mem_steps child.2

theorem visitedFrom_eq (node : SyntaxNode) :
    visitedFrom node = (steps node).flatMap visitedFrom ++ [node] := by
  rw [visitedFrom, flatMap_attach_val]

/-- The root is passed through whatever its kind. -/
def visited (root : SyntaxNode) : List SyntaxNode :=
  root.namedChildren.flatMap visitedFrom

theorem mem_visitedFrom_iff {below : SyntaxNode} (node : SyntaxNode) :
    below ∈ visitedFrom node ↔ ReflTransGen Step node below := by
  rw [visitedFrom_eq, List.mem_append, List.mem_flatMap, List.mem_singleton,
    ReflTransGen.cases_head_iff, or_comm, eq_comm]
  refine or_congr_right ⟨?_, ?_⟩
  · rintro ⟨child, hchild, hbelow⟩
    exact ⟨child, mem_steps_iff.1 hchild, (mem_visitedFrom_iff child).1 hbelow⟩
  · rintro ⟨child, hstep, hbelow⟩
    exact ⟨child, mem_steps_iff.2 hstep, (mem_visitedFrom_iff child).2 hbelow⟩
termination_by node.size
decreasing_by
  · exact size_lt_of_mem_steps hchild
  · exact size_lt_of_mem_steps (mem_steps_iff.2 hstep)

theorem mem_visited_iff {node root : SyntaxNode} :
    node ∈ visited root ↔ ∃ child ∈ root.namedChildren, ReflTransGen Step child node := by
  simp only [visited, List.mem_flatMap, mem_visitedFrom_iff]

/-! ### The order of the visit

Any walk that takes in the children of a node in order takes in the nodes to which a step leads in
order.
-/

section Walk

variable {α : Type} {walk : SyntaxNode → List α}
  (hwalk : ∀ node : SyntaxNode, (node.children.flatMap walk).Sublist (walk node))
include hwalk

theorem flatMap_memberNodes_sublist (node : SyntaxNode) :
    (node.memberNodes.flatMap walk).Sublist (node.children.flatMap walk) := by
  rw [SyntaxNode.memberNodes]
  cases hbody : node.child? .body with
  | none => exact List.nil_sublist _
  | some body =>
      have hmembers := SyntaxNode.flatMap_namedChildren_sublist walk body
      have houtside := SyntaxNode.walk_sublist_of_child? walk hbody
      exact hmembers.trans ((hwalk body).trans houtside)

theorem flatMap_templateHeaders_sublist (node : SyntaxNode) :
    ((templateHeaders node).2.children.flatMap walk).Sublist (node.children.flatMap walk) := by
  fun_induction templateHeaders node with
  | case1 node => exact List.Sublist.refl _
  | case2 node nested hnested layers innermost heq ih =>
      rw [heq] at ih
      have hnamed :=
        SyntaxNode.walk_sublist_flatMap_of_mem walk (List.mem_of_find?_eq_some hnested)
      have houtside := SyntaxNode.flatMap_namedChildren_sublist walk node
      exact ih.trans ((hwalk nested).trans (hnamed.trans houtside))

theorem flatMap_steps_sublist (node : SyntaxNode) :
    ((steps node).flatMap walk).Sublist (node.children.flatMap walk) := by
  have hone {child? : Option SyntaxNode}
      (hchild : ∀ child, child? = some child →
        (walk child).Sublist (node.children.flatMap walk)) :
      (child?.toList.flatMap walk).Sublist (node.children.flatMap walk) := by
    cases child? with
    | none => exact List.nil_sublist _
    | some child =>
        rw [Option.toList_some, List.flatMap_singleton]
        exact hchild child rfl
  rw [steps]
  split_ifs
  · exact SyntaxNode.flatMap_namedChildren_sublist walk node
  · exact flatMap_memberNodes_sublist hwalk node
  · exact hone fun body hbody => SyntaxNode.walk_sublist_of_child? walk hbody
  · exact hone fun type htype =>
      SyntaxNode.walk_sublist_of_child? walk (definedType?_eq_some_iff.1 htype).1
  · have hcontents : (templateContents node).Sublist (templateHeaders node).2.children :=
      List.filter_sublist.trans List.filter_sublist
    exact (hcontents.flatMap walk).trans (flatMap_templateHeaders_sublist hwalk node)
  · exact List.nil_sublist _

end Walk

theorem visitedFrom_sublist_postorder (node : SyntaxNode) :
    (visitedFrom node).Sublist node.postorder := by
  have hchildren : ∀ child ∈ steps node, (visitedFrom child).Sublist child.postorder := by
    intro child hchild
    exact visitedFrom_sublist_postorder child
  have hsteps := List.Sublist.flatMap_right (steps node) hchildren
  have hbelow := flatMap_steps_sublist SyntaxNode.descendants_sublist_postorder node
  rw [visitedFrom_eq, SyntaxNode.postorder_eq]
  exact (hsteps.trans hbelow).append (List.Sublist.refl [node])
termination_by node.size
decreasing_by exact size_lt_of_mem_steps hchild

theorem visited_sublist_descendants (root : SyntaxNode) : (visited root).Sublist root.descendants := by
  have hchildren : ∀ child ∈ root.namedChildren, (visitedFrom child).Sublist child.postorder :=
    fun child _ => visitedFrom_sublist_postorder child
  exact (List.Sublist.flatMap_right root.namedChildren hchildren).trans
    (SyntaxNode.flatMap_namedChildren_sublist postorder root)

end Lowering

end NamingCheck
