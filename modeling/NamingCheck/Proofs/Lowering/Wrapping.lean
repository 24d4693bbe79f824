import NamingCheck.Proofs.Lowering.Alike
import NamingCheck.Proofs.Verdict.Forest

/-!
# Wrapping a run of siblings

Wherever children are collected, a run of them may be put into a transparent wrapper: the wrapper
hands on the scope that it is given and adds no entity. Outside of classes a run may also be put
into a namespace or a linkage block, which adds an entity of its own but no verdict.
-/

namespace NamingCheck.Lowering

open SyntaxNode (Replaces SameShell Somewhere)

/-- The kinds that are passed through without a trace. A friend declaration marks what it holds. -/
def transparent : List SyntaxKind :=
  [.declarationList, .fieldDeclarationList, .preprocIf, .preprocIfdef, .preprocElse, .preprocElif,
    .preprocElifdef, .error]

/-- The run stands in a wrapper, which may stand in further ones. Besides the run there are only
nodes that declare nothing, such as the condition. -/
inductive Wraps (run : List SyntaxNode) : SyntaxNode → Prop where
  | once {wrapper : SyntaxNode}
      (hkind : wrapper.kind ∈ transparent)
      (hnamed : wrapper.isNamed = true)
      (hamong : Among (run.filter (·.isNamed)) wrapper.namedChildren) :
      Wraps run wrapper
  | again {inner wrapper : SyntaxNode}
      (hinner : Wraps run inner)
      (hkind : wrapper.kind ∈ transparent)
      (hnamed : wrapper.isNamed = true)
      (hamong : Among [inner] wrapper.namedChildren) :
      Wraps run wrapper

/-- The run stands in the block of a namespace or linkage. -/
inductive Groups (run : List SyntaxNode) : SyntaxNode → Prop where
  | inNamespace {group block : SyntaxNode}
      (hkind : group.kind = .namespaceDefinition)
      (hnamed : group.isNamed = true)
      (hbody : group.child? .body = some block)
      (hamong : Among (run.filter (·.isNamed)) block.namedChildren) :
      Groups run group
  | inLinkage {group block : SyntaxNode}
      (hkind : group.kind = .linkageSpecification)
      (hnamed : group.isNamed = true)
      (hbody : group.child? .body = some block)
      (hblock : block.kind ∈ transparent)
      (hamong : Among (run.filter (·.isNamed)) block.namedChildren) :
      Groups run group

/-- The root of a file and the bodies of classes and namespaces are read for their children only,
whatever their kind. -/
inductive Reading where
  | byKind
  | forChildren

def Reading.inside : Reading → SyntaxNode → SyntaxNode → Reading
  | .forChildren, _, _ => .byKind
  | .byKind, node, child =>
      if node.kind ∈ withMembers ∧ child.field = some .body then .forChildren else .byKind

/-- Somewhere in the tree, where children are collected, a run of siblings is put into wrappers. -/
inductive Rewrapped : Reading → SyntaxNode → SyntaxNode → Prop where
  | here {reading : Reading} {node result wrapper : SyntaxNode} {run : List SyntaxNode}
      (hcollects : reading = .forChildren ∨ node.kind ∈ passedThrough)
      (hreplaces : Replaces node result run [wrapper])
      (hwraps : Wraps run wrapper) :
      Rewrapped reading node result
  | inside {reading : Reading} {node result child changed : SyntaxNode}
      (hreplaces : Replaces node result [child] [changed])
      (hchild : Rewrapped (reading.inside node child) child changed) :
      Rewrapped reading node result

/-- Outside of all classes, friend declarations and templates, a run of siblings is put into a
namespace or a linkage block. -/
inductive Regrouped : Reading → SyntaxNode → SyntaxNode → Prop where
  | here {reading : Reading} {node result group : SyntaxNode} {run : List SyntaxNode}
      (hcollects : reading = .forChildren ∨ node.kind ∈ transparent)
      (hreplaces : Replaces node result run [group])
      (hgroups : Groups run group) :
      Regrouped reading node result
  | through {reading : Reading} {node result child changed : SyntaxNode}
      (hcollects : reading = .forChildren ∨ node.kind ∈ transparent)
      (hreplaces : Replaces node result [child] [changed])
      (hchild : Regrouped .byKind child changed) :
      Regrouped reading node result
  | inNamespace {node result body changed : SyntaxNode}
      (hkind : node.kind = .namespaceDefinition)
      (hfield : body.field = some .body)
      (hreplaces : Replaces node result [body] [changed])
      (hbody : Regrouped .forChildren body changed) :
      Regrouped .byKind node result
  | inLinkage {node result body changed : SyntaxNode}
      (hkind : node.kind = .linkageSpecification)
      (hfield : body.field = some .body)
      (hreplaces : Replaces node result [body] [changed])
      (hbody : Regrouped .byKind body changed) :
      Regrouped .byKind node result

variable {source : ByteArray} {node result : SyntaxNode} {run : List SyntaxNode}

theorem Rewrapped.sameShell {reading : Reading} (hrewrapped : Rewrapped reading node result) :
    SameShell node result := by
  cases hrewrapped with
  | here _ hreplaces _ => exact hreplaces.sameShell
  | inside hreplaces _ => exact hreplaces.sameShell

theorem Regrouped.sameShell {reading : Reading} (hregrouped : Regrouped reading node result) :
    SameShell node result := by
  cases hregrouped with
  | here _ hreplaces _ => exact hreplaces.sameShell
  | through _ hreplaces _ => exact hreplaces.sameShell
  | inNamespace _ _ hreplaces _ => exact hreplaces.sameShell
  | inLinkage _ _ hreplaces _ => exact hreplaces.sameShell

/-! ### Wrappers -/

theorem lower_of_transparent (hkind : node.kind ∈ transparent) (owner : Option String) :
    lower source node owner = node.namedChildren.flatMap (lower source · owner) := by
  rw [lower_eq]
  generalize node.kind = kind at hkind ⊢
  fin_cases hkind <;> rfl

theorem Wraps.isNamed {wrapper : SyntaxNode} (hwraps : Wraps run wrapper) :
    wrapper.isNamed = true := by
  cases hwraps with
  | once _ hnamed _ => exact hnamed
  | again _ _ hnamed _ => exact hnamed

theorem Wraps.lower_eq {wrapper : SyntaxNode} (hwraps : Wraps run wrapper)
    (owner : Option String) :
    lower source wrapper owner = (run.filter (·.isNamed)).flatMap (lower source · owner) := by
  have hidle (child : SyntaxNode) (hchild : child.kind ∉ entered) :
      lower source child owner = [] := lower_eq_nil source hchild owner
  induction hwraps with
  | once hkind _ hamong => rw [lower_of_transparent hkind, hamong.flatMap hidle]
  | again _ hkind _ hamong ih =>
      rw [lower_of_transparent hkind, hamong.flatMap hidle, List.flatMap_singleton, ih]

/-- What a change below a node keeps, depending on how the node is read. -/
def Unchanged (source : ByteArray) : Reading → SyntaxNode → SyntaxNode → Prop
  | .byKind => Alike source
  | .forChildren => AlikeInside source

/-- One step up: a change that does not show at a child does not show at the node. -/
theorem Unchanged.of_inside {reading : Reading} {child changed : SyntaxNode}
    (hreplaces : Replaces node result [child] [changed]) (hshell : SameShell child changed)
    (hchild : Unchanged source (reading.inside node child) child changed) :
    Unchanged source reading node result := by
  cases reading with
  | forChildren =>
      have halike : Alike source child changed := hchild
      exact ⟨hreplaces.sameShell, fun owner =>
        hreplaces.flatMap_eq_of_child hshell (halike.sameEntities owner)⟩
  | byKind =>
      rw [Reading.inside] at hchild
      by_cases hmembers : node.kind ∈ withMembers
      · have hself (node : SyntaxNode) : AlikePart source node node := by
          rw [AlikePart]
          split_ifs
          · exact AlikeInside.refl node
          · exact Alike.refl node
        have hmember : AlikePart source child changed := by
          rw [AlikePart]
          by_cases hfield : child.field = some .body
          · rw [if_pos ⟨hmembers, hfield⟩] at hchild
            rw [if_pos hfield]
            exact hchild
          · rw [if_neg fun hbody => hfield hbody.2] at hchild
            rw [if_neg hfield]
            exact hchild
        exact Alike.of_members hreplaces.sameShell hmembers (hreplaces.forall₂ hself hmember)
      · rw [if_neg fun hbody => hmembers hbody.1] at hchild
        exact Alike.of_children hreplaces.sameShell hmembers
          (hreplaces.forall₂ Alike.refl hchild)

/-- A change that does not show where it is made does not show at the root. -/
theorem Unchanged.of_somewhere {Same Change : SyntaxNode → SyntaxNode → Prop}
    (hsomewhere : Somewhere Same Change node result)
    (hsame : ∀ node result, Same node result → SameShell node result)
    (hchange : ∀ node result, Change node result →
      SameShell node result ∧ ∀ reading, Unchanged source reading node result) :
    SameShell node result ∧ ∀ reading, Unchanged source reading node result := by
  induction hsomewhere with
  | here hhere => exact hchange _ _ hhere
  | inside hnode hbefore hafter _ ih =>
      obtain ⟨hshell, hchild⟩ := ih
      have hreplaces := Replaces.of_child (hsame _ _ hnode) hbefore hafter
      exact ⟨hsame _ _ hnode, fun reading => .of_inside hreplaces hshell (hchild _)⟩

/-- All steps up to the root. -/
theorem Rewrapped.unchanged {reading : Reading} (hrewrapped : Rewrapped reading node result) :
    Unchanged source reading node result := by
  induction hrewrapped with
  | @here reading node result wrapper run hcollects hreplaces hwraps =>
      have hinside : AlikeInside source node result :=
        ⟨hreplaces.sameShell, fun owner => hreplaces.flatMap_eq (by
          rw [List.filter_singleton, hwraps.isNamed, cond_true, List.flatMap_singleton,
            hwraps.lower_eq])⟩
      cases reading with
      | forChildren => exact hinside
      | byKind => exact Alike.of_passedThrough hinside (hcollects.resolve_left nofun)
  | inside hreplaces hchild ih => exact Unchanged.of_inside hreplaces hchild.sameShell ih

/-! ### Groups -/

theorem forestVerdicts_namespaceChain (policy : Policy) (line : UInt32) (members : List Entity)
    (names : List String) :
    policy.forestVerdicts (namespaceChain line members names) = policy.forestVerdicts members := by
  induction names with
  | nil => rfl
  | cons name names ih =>
      rw [namespaceChain, policy.forestVerdicts_singleton,
        policy.verdicts_of_isCallable_eq_false rfl, ← ih]
      rfl

/-- The verdicts below a node that stands outside of all classes, depending on how it is read. -/
def verdictsBelow (source : ByteArray) (policy : Policy) : Reading → SyntaxNode → List Verdict
  | .byKind, node => policy.forestVerdicts (lower source node none)
  | .forChildren, node => policy.forestVerdicts (node.namedChildren.flatMap (lower source · none))

variable (policy : Policy)

theorem verdictsBelow_of_collects {reading : Reading}
    (hcollects : reading = .forChildren ∨ node.kind ∈ transparent) :
    verdictsBelow source policy reading node =
      node.namedChildren.flatMap (verdictsBelow source policy .byKind) := by
  have hchildren : policy.forestVerdicts (node.namedChildren.flatMap (lower source · none)) =
      node.namedChildren.flatMap (verdictsBelow source policy .byKind) :=
    policy.forestVerdicts_flatMap _ _
  cases reading with
  | forChildren => exact hchildren
  | byKind =>
      rw [verdictsBelow, lower_of_transparent (hcollects.resolve_left nofun)]
      exact hchildren

theorem verdictsBelow_namespace (hkind : node.kind = .namespaceDefinition) :
    verdictsBelow source policy .byKind node =
      ((node.child? .body).map (verdictsBelow source policy .forChildren)).getD [] := by
  rw [verdictsBelow, lower_eq, hkind]
  dsimp only
  rw [forestVerdicts_namespaceChain, SyntaxNode.memberNodes]
  cases node.child? .body <;> rfl

theorem verdictsBelow_linkage (hkind : node.kind = .linkageSpecification) :
    verdictsBelow source policy .byKind node =
      ((node.child? .body).map (verdictsBelow source policy .byKind)).getD [] := by
  rw [verdictsBelow, lower_eq, hkind]
  dsimp only
  rw [policy.forestVerdicts_singleton, policy.verdicts_of_isCallable_eq_false rfl]
  cases node.child? .body with
  | none => rfl
  | some body =>
      rw [Option.map_some, Option.getD_some, Option.toList_some, List.flatMap_singleton]
      rfl

theorem Groups.isNamed {group : SyntaxNode} (hgroups : Groups run group) :
    group.isNamed = true := by
  cases hgroups with
  | inNamespace _ hnamed _ _ => exact hnamed
  | inLinkage _ hnamed _ _ _ => exact hnamed

theorem Groups.verdictsBelow_eq {group : SyntaxNode} (hgroups : Groups run group) :
    verdictsBelow source policy .byKind group =
      (run.filter (·.isNamed)).flatMap (verdictsBelow source policy .byKind) := by
  have hidle (child : SyntaxNode) (hchild : child.kind ∉ entered) :
      verdictsBelow source policy .byKind child = [] := by
    rw [verdictsBelow, lower_eq_nil source hchild none]
    rfl
  cases hgroups with
  | inNamespace hkind _ hbody hamong =>
      rw [verdictsBelow_namespace policy hkind, hbody, Option.map_some, Option.getD_some,
        verdictsBelow_of_collects policy (Or.inl rfl), hamong.flatMap hidle]
  | inLinkage hkind _ hbody hblock hamong =>
      rw [verdictsBelow_linkage policy hkind, hbody, Option.map_some, Option.getD_some,
        verdictsBelow_of_collects policy (Or.inr hblock), hamong.flatMap hidle]

theorem Regrouped.verdictsBelow_eq {reading : Reading}
    (hregrouped : Regrouped reading node result) :
    verdictsBelow source policy reading node = verdictsBelow source policy reading result := by
  induction hregrouped with
  | @here reading node result group run hcollects hreplaces hgroups =>
      have hresult : reading = .forChildren ∨ result.kind ∈ transparent := by
        rwa [← hreplaces.sameShell.kind_eq]
      rw [verdictsBelow_of_collects policy hcollects, verdictsBelow_of_collects policy hresult]
      apply hreplaces.flatMap_eq
      rw [List.filter_singleton, hgroups.isNamed, cond_true, List.flatMap_singleton,
        hgroups.verdictsBelow_eq]
  | @through reading node result child changed hcollects hreplaces hchild ih =>
      have hresult : reading = .forChildren ∨ result.kind ∈ transparent := by
        rwa [← hreplaces.sameShell.kind_eq]
      rw [verdictsBelow_of_collects policy hcollects, verdictsBelow_of_collects policy hresult]
      exact hreplaces.flatMap_eq_of_child hchild.sameShell ih
  | @inNamespace node result body changed hkind _ hreplaces hbody ih =>
      have hresult : result.kind = .namespaceDefinition := by
        rw [← hreplaces.sameShell.kind_eq, hkind]
      rw [verdictsBelow_namespace policy hkind, verdictsBelow_namespace policy hresult,
        hreplaces.map_child?_eq hbody.sameShell ih .body]
  | @inLinkage node result body changed hkind _ hreplaces hbody ih =>
      have hresult : result.kind = .linkageSpecification := by
        rw [← hreplaces.sameShell.kind_eq, hkind]
      rw [verdictsBelow_linkage policy hkind, verdictsBelow_linkage policy hresult,
        hreplaces.map_child?_eq hbody.sameShell ih .body]

/-- Wherever children are collected, putting a run of them into wrappers leaves the entities of the
file as they are. Outside of all classes, putting it into a namespace or a linkage block leaves the
verdicts as they are. -/
theorem fileEntity_of_wrapped (source : ByteArray) (name : String) :
    (∀ root result, Rewrapped .forChildren root result →
      fileEntity source name root = fileEntity source name result) ∧
    (∀ (policy : Policy) (root result), Regrouped .forChildren root result →
      policy.verdicts (fileEntity source name root) =
        policy.verdicts (fileEntity source name result)) := by
  refine ⟨fun root result hrewrapped => ?_, fun policy root result hregrouped => ?_⟩
  · have hinside : AlikeInside source root result := hrewrapped.unchanged
    rw [fileEntity, fileEntity, hinside.sameMembers none]
  · have hfile (root : SyntaxNode) : policy.verdicts (fileEntity source name root) =
        verdictsBelow source policy .forChildren root :=
      policy.verdicts_of_isCallable_eq_false rfl
    rw [hfile, hfile, hregrouped.verdictsBelow_eq]

/-- `struct Box { Box(); void Put(); };` -/
def guardedSource : ByteArray := "struct Box \x7b Box(); void Put(); \x7d;".toUTF8

def guardedMembers : List SyntaxNode :=
  [{ SyntaxNode.blank with
     kind := .declaration
     start := 13
     stop := 19
     children :=
       [{ SyntaxNode.blank with
          kind := .functionDeclarator
          field := some .declarator
          start := 13
          stop := 18
          children :=
            [{ SyntaxNode.blank with
               kind := .identifier, field := some .declarator, start := 13, stop := 16 }] }] },
    { SyntaxNode.blank with
      kind := .fieldDeclaration
      start := 20
      stop := 31
      children :=
        [{ SyntaxNode.blank with
           kind := .other "primitive_type", field := some .type, start := 20, stop := 24 },
          { SyntaxNode.blank with
            kind := .functionDeclarator
            field := some .declarator
            start := 25
            stop := 30
            children :=
              [{ SyntaxNode.blank with
                 kind := .fieldIdentifier
                 field := some .declarator
                 start := 25
                 stop := 28 }] }] }]

def guardedBody (members : List SyntaxNode) : SyntaxNode :=
  { SyntaxNode.blank with
    kind := .fieldDeclarationList
    field := some .body
    start := 11
    stop := 33
    children := members }

def guardedName : SyntaxNode :=
  { SyntaxNode.blank with
    kind := .other "type_identifier", field := some .name, start := 7, stop := 10 }

def guardedClass (members : List SyntaxNode) : SyntaxNode :=
  { SyntaxNode.blank with
    kind := .structSpecifier, stop := 33, children := [guardedName, guardedBody members] }

def guardedUnit (declarations : List SyntaxNode) : SyntaxNode :=
  { SyntaxNode.blank with stop := 34, children := declarations }

/-- `#ifdef`, with a macro name besides the run. -/
def guardingIfdef (run : List SyntaxNode) : SyntaxNode :=
  { SyntaxNode.blank with
    kind := .preprocIfdef
    children := { SyntaxNode.blank with kind := .identifier, field := some .name } :: run }

def guardingError (run : List SyntaxNode) : SyntaxNode :=
  { SyntaxNode.blank with kind := .error, isError := true, hasError := true, children := run }

/-- `extern "C" { … }` -/
def linkedBlock (run : List SyntaxNode) : SyntaxNode :=
  { SyntaxNode.blank with
    kind := .linkageSpecification
    children :=
      [{ SyntaxNode.blank with
         kind := .declarationList, field := some .body, children := run }] }

theorem fileEntity_of_wrapped_guarded :
    fileEntity guardedSource "box.hpp" (guardedUnit [guardedClass guardedMembers]) =
      fileEntity guardedSource "box.hpp"
        (guardedUnit [guardedClass [guardingIfdef [guardingError guardedMembers]]]) ∧
    Policy.standard.verdicts
        (fileEntity guardedSource "box.hpp" (guardedUnit [guardedClass guardedMembers])) =
      Policy.standard.verdicts
        (fileEntity guardedSource "box.hpp"
          (guardedUnit [linkedBlock [guardedClass guardedMembers]])) := by
  have hreplaces (node result : SyntaxNode) (hshell : SameShell node result) :
      Replaces node result node.children result.children :=
    ⟨hshell, [], [], (List.append_nil _).symm, (List.append_nil _).symm⟩
  have hwraps : Wraps guardedMembers (guardingIfdef [guardingError guardedMembers]) := by
    refine .again (.once (by decide) rfl ⟨[], [], rfl, nofun⟩) (by decide) rfl
      ⟨[{ SyntaxNode.blank with kind := .identifier, field := some .name }], [], rfl, ?_⟩
    intro child hchild
    rw [List.mem_singleton.1 hchild]
    decide
  have hbody : Rewrapped .forChildren (guardedBody guardedMembers)
      (guardedBody [guardingIfdef [guardingError guardedMembers]]) :=
    .here (Or.inl rfl) (hreplaces _ _ ⟨rfl, rfl, rfl, rfl, rfl, rfl⟩) hwraps
  have hclass : Rewrapped .byKind (guardedClass guardedMembers)
      (guardedClass [guardingIfdef [guardingError guardedMembers]]) :=
    .inside ⟨⟨rfl, rfl, rfl, rfl, rfl, rfl⟩, [guardedName], [], rfl, rfl⟩ hbody
  have hgroups : Groups [guardedClass guardedMembers] (linkedBlock [guardedClass guardedMembers]) :=
    .inLinkage rfl rfl rfl (by decide) ⟨[], [], rfl, nofun⟩
  obtain ⟨hentities, hverdicts⟩ := fileEntity_of_wrapped guardedSource "box.hpp"
  refine ⟨hentities _ _ (.inside (hreplaces _ _ ⟨rfl, rfl, rfl, rfl, rfl, rfl⟩) hclass), ?_⟩
  exact hverdicts Policy.standard _ _
    (.here (Or.inl rfl) (hreplaces _ _ ⟨rfl, rfl, rfl, rfl, rfl, rfl⟩) hgroups)

end NamingCheck.Lowering
