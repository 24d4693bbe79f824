import Mathlib.Data.List.Basic
import NamingCheck.Proofs.Lowering.Steps

/-!
# Every callable is lowered once

Wrappers, scopes and types are put around the entities of the nodes they hold, but the callables
among these come out unchanged and in order. One step of the lowering therefore yields the callables
of the nodes it leads to, followed by those that the node introduces itself, and the whole lowering
those of all visited nodes.
-/

namespace NamingCheck

open OrderedTree (preorder preorder_eq)

/-- The form of the name for which an entity of this kind was made, if it was made for a name. -/
def Entity.Kind.form? : Entity.Kind → Option NameForm
  | function | memberFunction | constructor => some .plain
  | destructor => some .destructor
  | conversionOperator => some .conversion
  | _ => none

/-- A callable as it was declared, whatever it belongs to. -/
structure Callable where
  name : String
  form : NameForm
  line : UInt32
  isDefinition : Bool
  deriving DecidableEq, Repr

namespace Entity

def callable? (entity : Entity) : Option Callable :=
  entity.kind.form?.map fun form =>
    { name := entity.name, form, line := entity.line, isDefinition := entity.isDefinition }

theorem callable?_asDeclaration (entity : Entity) :
    entity.asDeclaration.callable? =
      entity.callable?.map fun callable => { callable with isDefinition := false } := by
  rw [callable?, callable?, Option.map_map]
  rfl

/-- The callables in a forest of entities, in pre-order. -/
def callables (entities : List Entity) : List Callable :=
  (entities.flatMap preorder).filterMap callable?

theorem callables_append (left right : List Entity) :
    callables (left ++ right) = callables left ++ callables right := by
  rw [callables, List.flatMap_append, List.filterMap_append]
  rfl

theorem callables_flatMap {α : Type} (items : List α) (f : α → List Entity) :
    callables (items.flatMap f) = items.flatMap fun item => callables (f item) := by
  induction items with
  | nil => rfl
  | cons first rest ih => rw [List.flatMap_cons, List.flatMap_cons, callables_append, ih]

theorem callables_cons (first : Entity) (rest : List Entity) :
    callables (first :: rest) =
      first.callable?.toList ++ callables first.children ++ callables rest := by
  rw [← List.singleton_append, callables_append]
  congr 1
  rw [callables, List.flatMap_singleton, preorder_eq]
  cases hcallable : first.callable? with
  | none => rw [List.filterMap_cons_none hcallable]; rfl
  | some callable => rw [List.filterMap_cons_some hcallable]; rfl

theorem callables_singleton (entity : Entity) :
    callables [entity] = entity.callable?.toList ++ callables entity.children := by
  rw [callables_cons]
  exact List.append_nil _

/-- A change of the entities that touches neither what they declare nor what they hold. -/
theorem callables_map {f : Entity → Entity}
    (hcallable : ∀ entity, (f entity).callable? = entity.callable?)
    (hchildren : ∀ entity, (f entity).children = entity.children) (entities : List Entity) :
    callables (entities.map f) = callables entities := by
  induction entities with
  | nil => rfl
  | cons first rest ih =>
      rw [List.map_cons, callables_cons, callables_cons, hcallable, hchildren, ih]

theorem callables_map_asTemplated (entities : List Entity) :
    callables (entities.map asTemplated) = callables entities :=
  callables_map (f := asTemplated) (fun _ => rfl) (fun _ => rfl) entities

theorem callables_map_asFriended (entities : List Entity) :
    callables (entities.map asFriended) = callables entities :=
  callables_map (f := asFriended) (fun _ => rfl) (fun _ => rfl) entities

end Entity

namespace Lowering

open Entity (callables)
open Declarator (functionName?)

variable (source : ByteArray)

def callableOf (node : SyntaxNode) (isDefinition : Bool) (declared : DeclaredName) : Callable where
  name := declared.name
  form := declared.form
  line := node.line
  isDefinition := isDefinition

/-- The callables that a node introduces by some of its declarators. -/
def introducedBy (node : SyntaxNode) (isDefinition : Bool) (declarators : List SyntaxNode) :
    List Callable :=
  (declarators.filterMap (functionName? source)).map (callableOf node isDefinition)

/-- The kinds whose declarators declare callables that are defined elsewhere. -/
def declaring : List SyntaxKind :=
  [.declaration, .fieldDeclaration, .templateInstantiation]

theorem mem_declaring_iff {kind : SyntaxKind} :
    kind ∈ declaring ↔
      kind = .declaration ∨ kind = .fieldDeclaration ∨ kind = .templateInstantiation := by
  simp [declaring]

/-- The kinds of nodes that introduce functions outside of instantiations. -/
def introducing : List SyntaxKind := [.functionDefinition, .declaration, .fieldDeclaration]

/-- The declarators by which a node may introduce callables. A definition has one, a declaration may
have several. -/
def declarators (node : SyntaxNode) : List SyntaxNode :=
  match node.kind with
  | .functionDefinition => (node.child? .declarator).toList
  | .declaration | .fieldDeclaration | .templateInstantiation => node.childrenIn .declarator
  | _ => []

def introduced (node : SyntaxNode) : List Callable :=
  introducedBy source node (node.kind == .functionDefinition) (declarators node)

theorem declarators_of_definition {node : SyntaxNode} (hkind : node.kind = .functionDefinition) :
    declarators node = (node.child? .declarator).toList := by
  rw [declarators, hkind]

theorem declarators_of_declaring {node : SyntaxNode} (hkind : node.kind ∈ declaring) :
    declarators node = node.childrenIn .declarator := by
  rw [declarators]
  rcases mem_declaring_iff.1 hkind with hkind | hkind | hkind <;> rw [hkind]

theorem beq_functionDefinition_of_declaring {node : SyntaxNode} (hkind : node.kind ∈ declaring) :
    (node.kind == .functionDefinition) = false := by
  rcases mem_declaring_iff.1 hkind with hkind | hkind | hkind <;> rw [hkind] <;> rfl

theorem introduced_of_declaring {node : SyntaxNode} (hkind : node.kind ∈ declaring) :
    introduced source node = introducedBy source node false (node.childrenIn .declarator) := by
  rw [introduced, declarators_of_declaring hkind, beq_functionDefinition_of_declaring hkind]

/-- Where a callable may come from: a node and one of its declarators. -/
structure Origin where
  node : SyntaxNode
  declarator : SyntaxNode

/-- The callable that comes from there under the name that the declarator has. -/
def Origin.callable (origin : Origin) (declared : DeclaredName) : Callable :=
  callableOf origin.node (origin.node.kind == .functionDefinition) declared

theorem Origin.callable_of_definition {origin : Origin}
    (hkind : origin.node.kind = .functionDefinition) (declared : DeclaredName) :
    origin.callable declared = callableOf origin.node true declared := by
  rw [callable, hkind]
  rfl

theorem Origin.callable_of_declaring {origin : Origin} (hkind : origin.node.kind ∈ declaring)
    (declared : DeclaredName) :
    origin.callable declared = callableOf origin.node false declared := by
  rw [callable, beq_functionDefinition_of_declaring hkind]

theorem introducedBy_singleton (node : SyntaxNode) (isDefinition : Bool)
    (declarator : SyntaxNode) :
    introducedBy source node isDefinition [declarator] =
      ((functionName? source declarator).map (callableOf node isDefinition)).toList := by
  rw [introducedBy]
  cases hname : functionName? source declarator with
  | none =>
      rw [List.filterMap_cons_none hname]
      rfl
  | some declared =>
      rw [List.filterMap_cons_some hname]
      rfl

theorem introducedBy_append (node : SyntaxNode) (isDefinition : Bool)
    (before after : List SyntaxNode) :
    introducedBy source node isDefinition (before ++ after) =
      introducedBy source node isDefinition before ++
        introducedBy source node isDefinition after := by
  rw [introducedBy, List.filterMap_append, List.map_append]
  rfl

theorem form?_callableKind (declared : DeclaredName) (owner : Option String) (hasType : Bool) :
    (callableKind declared owner hasType).form? = some declared.form := by
  rw [callableKind]
  cases declared.form with
  | plain => simp only; split_ifs <;> rfl
  | destructor => rfl
  | conversion => rfl

theorem callable?_callableEntity (node : SyntaxNode) (owner : Option String)
    (declared : DeclaredName) :
    (callableEntity node owner declared).callable? = some (callableOf node true declared) := by
  rw [Entity.callable?]
  change ((callableKind declared owner _).form?).map _ = _
  rw [form?_callableKind]
  rfl

theorem callable?_callableEntity_asDeclaration (node : SyntaxNode) (owner : Option String)
    (declared : DeclaredName) :
    (callableEntity node owner declared).asDeclaration.callable? =
      some (callableOf node false declared) := by
  rw [Entity.callable?_asDeclaration, callable?_callableEntity]
  rfl

theorem callables_definedCallable? (node : SyntaxNode) (owner : Option String) :
    callables (definedCallable? source node owner).toList =
      introducedBy source node true (node.child? .declarator).toList := by
  rw [definedCallable?]
  cases node.child? .declarator with
  | none => rfl
  | some declarator =>
      rw [Option.bind_some, Option.toList_some, introducedBy_singleton]
      cases functionName? source declarator with
      | none => rfl
      | some declared =>
          rw [Option.map_some, Option.toList_some, Entity.callables_singleton,
            callable?_callableEntity]
          rfl

theorem callables_declaredCallables (node : SyntaxNode) (owner : Option String) :
    callables (declaredCallables source node owner) =
      introducedBy source node false (node.childrenIn .declarator) := by
  rw [declaredCallables, introducedBy]
  induction (node.childrenIn .declarator).filterMap (functionName? source) with
  | nil => rfl
  | cons first rest ih =>
      rw [List.map_cons, List.map_cons, Entity.callables_cons, ih,
        callable?_callableEntity_asDeclaration]
      rfl

theorem callables_namespaceChain (line : UInt32) (members : List Entity) (names : List String) :
    callables (namespaceChain line members names) = callables members := by
  induction names with
  | nil => rfl
  | cons name names ih =>
      rw [namespaceChain, Entity.callables_singleton]
      exact ih

theorem callables_linkageEntity (node : SyntaxNode) (members : List Entity) :
    callables [linkageEntity source node members] = callables members := by
  rw [Entity.callables_singleton]
  rfl

theorem lower_class {cls : SyntaxNode} (hclass : cls.kind.isClassLike = true)
    (owner : Option String) :
    lower source cls owner =
      [classEntity source cls
        (cls.memberNodes.flatMap (lower source · (some (tagName source cls))))] := by
  have hkind : cls.kind = .classSpecifier ∨ cls.kind = .structSpecifier ∨
      cls.kind = .unionSpecifier := by
    revert hclass
    cases cls.kind <;> simp [SyntaxKind.isClassLike]
  rw [lower_eq]
  rcases hkind with hkind | hkind | hkind <;> rw [hkind]

theorem children_classEntity (cls : SyntaxNode) (members : List Entity) :
    (classEntity source cls members).children = members := by
  rw [classEntity]
  split_ifs <;> rfl

theorem callables_classEntity (node : SyntaxNode) (members : List Entity) :
    callables [classEntity source node members] = callables members := by
  rw [Entity.callables_singleton, classEntity]
  split_ifs <;> rfl

theorem callables_enumEntity (node : SyntaxNode) : callables [enumEntity source node] = [] := by
  rw [Entity.callables_singleton, enumEntity]
  split_ifs <;> rfl

theorem callables_around {kind : Entity.Kind} (hkind : kind.form? = none) (inner : List Entity)
    (line : UInt32) : callables [Entity.around kind inner line] = callables inner := by
  rw [Entity.callables_singleton, Entity.callable?]
  change (kind.form?.map _).toList ++ callables inner = _
  rw [hkind]
  rfl

theorem callables_markTemplated (layers : Nat) (child : SyntaxNode) (entities : List Entity) :
    callables (markTemplated layers child entities) = callables entities := by
  rw [markTemplated]
  split_ifs
  · exact Entity.callables_map_asTemplated entities
  · rfl

theorem callables_lower_definition {node : SyntaxNode} (hkind : node.kind = .functionDefinition)
    (owner : Option String) :
    callables (lower source node owner) =
      introducedBy source node true (node.child? .declarator).toList := by
  rw [lower_eq, hkind]
  exact callables_definedCallable? source node owner

/-- An instantiation is put into a wrapper of its own, but it declares what a declaration does. -/
theorem callables_lower_declaration {node : SyntaxNode} (hkind : node.kind ∈ declaring)
    (owner : Option String) :
    callables (lower source node owner) =
      (node.definedType?.toList.flatMap fun type => callables (lower source type none)) ++
        introducedBy source node false (node.childrenIn .declarator) := by
  have hboth : callables (node.definedType?.toList.flatMap (lower source · none) ++
        declaredCallables source node owner) =
      (node.definedType?.toList.flatMap fun type => callables (lower source type none)) ++
        introducedBy source node false (node.childrenIn .declarator) := by
    rw [Entity.callables_append, Entity.callables_flatMap, callables_declaredCallables]
  rw [lower_eq]
  rcases mem_declaring_iff.1 hkind with hkind | hkind | hkind
  · rw [hkind]
    exact hboth
  · rw [hkind]
    exact hboth
  · rw [hkind]
    dsimp only
    rw [callables_around rfl, Entity.callables_map_asTemplated, hboth]

/-- One step: the callables of the nodes it leads to, then those of the node itself. -/
theorem callables_lower_step (node : SyntaxNode) (owner : Option String) :
    ∃ inner, callables (lower source node owner) =
      ((steps node).flatMap fun child => callables (lower source child inner)) ++
        introduced source node := by
  by_cases hdeclaring : node.kind ∈ declaring
  · refine ⟨none, ?_⟩
    rw [callables_lower_declaration source hdeclaring owner, steps,
      introduced_of_declaring source hdeclaring]
    rcases mem_declaring_iff.1 hdeclaring with hkind | hkind | hkind <;> rw [hkind] <;> rfl
  have hinner (nodes : List SyntaxNode) (inner : Option String) :
      callables (nodes.flatMap (lower source · inner)) =
        (nodes.flatMap fun child => callables (lower source child inner)) ++ [] := by
    rw [Entity.callables_flatMap, List.append_nil]
  rw [lower_eq, steps, introduced, declarators]
  cases hkind : node.kind
  case functionDefinition =>
    exact ⟨none, callables_definedCallable? source node owner⟩
  case declaration | fieldDeclaration | templateInstantiation =>
    exact absurd (mem_declaring_iff.2 (by simp [hkind])) hdeclaring
  case typeDefinition =>
    exact ⟨none, hinner _ none⟩
  case namespaceDefinition =>
    exact ⟨none, (callables_namespaceChain _ _ _).trans (hinner _ none)⟩
  case linkageSpecification =>
    exact ⟨owner, (callables_linkageEntity source node _).trans (hinner _ owner)⟩
  case classSpecifier | structSpecifier | unionSpecifier =>
    exact ⟨some (tagName source node), (callables_classEntity source node _).trans (hinner _ _)⟩
  case enumSpecifier =>
    exact ⟨none, callables_enumEntity source node⟩
  case templateDeclaration =>
    refine ⟨owner, (callables_around rfl _ _).trans ?_⟩
    rw [Entity.callables_flatMap]
    simp only [callables_markTemplated]
    exact (List.append_nil _).symm
  case friendDeclaration =>
    refine ⟨none, (callables_around rfl _ _).trans ?_⟩
    rw [Entity.callables_map_asFriended]
    exact hinner _ none
  case declarationList | fieldDeclarationList | preprocIf | preprocIfdef | preprocElse |
      preprocElif | preprocElifdef | error =>
    exact ⟨owner, hinner _ owner⟩
  -- No other node is entered or introduces anything.
  all_goals exact ⟨none, rfl⟩

/-- All steps: the callables of a lowered node are those introduced along the way. -/
theorem callables_lower (node : SyntaxNode) (owner : Option String) :
    callables (lower source node owner) = (visitedFrom node).flatMap (introduced source) := by
  obtain ⟨inner, hstep⟩ := callables_lower_step source node owner
  have hchildren : ((steps node).flatMap fun child => callables (lower source child inner)) =
      (steps node).flatMap fun child => (visitedFrom child).flatMap (introduced source) := by
    apply List.flatMap_congr
    intro child hchild
    exact callables_lower child inner
  rw [hstep, hchildren, visitedFrom_eq, List.flatMap_append, List.flatMap_assoc,
    List.flatMap_singleton]
termination_by node.size
decreasing_by exact size_lt_of_mem_steps hchild

theorem filterMap_callable?_fileEntity (name : String) (root : SyntaxNode) :
    (preorder (fileEntity source name root)).filterMap Entity.callable? =
      (visited root).flatMap (introduced source) := by
  have hfile : (preorder (fileEntity source name root)).filterMap Entity.callable? =
      callables (root.namedChildren.flatMap fun child => lower source child none) := by
    rw [preorder_eq]
    exact List.filterMap_cons_none rfl
  rw [hfile]
  simp only [Entity.callables_flatMap, callables_lower, visited, List.flatMap_assoc]

/-- The callables of a file in pre-order are those that the visited nodes introduce: the nodes to
which steps lead, each once and in the post-order of the tree. -/
theorem callables_fileEntity (name : String) (root : SyntaxNode) :
    (∀ node, node ∈ visited root ↔
      ∃ child ∈ root.namedChildren, Relation.ReflTransGen Step child node) ∧
    (visited root).Sublist root.descendants ∧
    (preorder (fileEntity source name root)).filterMap Entity.callable? =
      (visited root).flatMap (introduced source) := by
  exact ⟨fun node => mem_visited_iff, visited_sublist_descendants root,
    filterMap_callable?_fileEntity source name root⟩

end Lowering

end NamingCheck
