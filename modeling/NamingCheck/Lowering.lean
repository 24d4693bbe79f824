import NamingCheck.Declarator.Name
import NamingCheck.Entity.Basic

/-!
From the syntax tree of a file to its declared entities.

Only declarations become entities. The bodies of functions, their parameters and initialisers are
never entered. What a plain callable is depends on its owner, the class whose body it stands in.
-/

namespace NamingCheck

namespace Entity

/-- Wraps the entities of one declaration under a name of the wrapper's own: that of the first. -/
def around (kind : Entity.Kind) (inner : List Entity) (line : UInt32) : Entity :=
  ((ofKind kind ((inner.head?.map (·.name)).getD "")).holding inner).onLine line

end Entity

namespace Lowering

open Declarator (functionName? spentHeaders)

/-- A function without a type that is named like its owner is a constructor; any other function with
an owner, or with a qualified name, is a member. -/
def callableKind (declared : DeclaredName) (owner : Option String) (hasType : Bool) : Entity.Kind :=
  match declared.form with
  | .destructor => .destructor
  | .conversion => .conversionOperator
  | .plain =>
      if !hasType && declared.qualifier.or owner == some declared.name then .constructor
      else if declared.isQualified || owner.isSome then .memberFunction
      else .function

variable (source : ByteArray)

def callableEntity (node : SyntaxNode) (owner : Option String) (declared : DeclaredName) : Entity :=
  (Entity.ofKind (callableKind declared owner (node.child? .type).isSome) declared.name).onLine
    node.line

/-- A function definition has one declarator. -/
def definedCallable? (node : SyntaxNode) (owner : Option String) : Option Entity :=
  ((node.child? .declarator).bind (functionName? source)).map (callableEntity node owner)

/-- A declaration may have several declarators, of which some declare functions. -/
def declaredCallables (node : SyntaxNode) (owner : Option String) : List Entity :=
  ((node.childrenIn .declarator).filterMap (functionName? source)).map fun declared =>
    (callableEntity node owner declared).asDeclaration

/-- The name of a class or enum, without template arguments. -/
def tagOf (node : SyntaxNode) : String :=
  match node.kind with
  | .templateType | .qualifiedTypeIdentifier =>
      match _hname : node.child? .name with
      | none => ""
      | some name => tagOf name
  | _ => node.text source
termination_by node.size
decreasing_by exact SyntaxNode.size_lt_of_child? ‹_›

theorem tagOf_eq (node : SyntaxNode) :
    tagOf source node =
      match node.kind with
      | .templateType | .qualifiedTypeIdentifier =>
          ((node.child? .name).map (tagOf source)).getD ""
      | _ => node.text source := by
  rw [tagOf]
  split <;> first | rfl | (split <;> simp_all)

def tagName (node : SyntaxNode) : String :=
  ((node.child? .name).map (tagOf source)).getD ""

def classEntity (node : SyntaxNode) (members : List Entity) : Entity :=
  let entity := ((Entity.ofKind .classType (tagName source node)).holding members).onLine
    node.line
  if (node.child? .body).isSome then entity else entity.asDeclaration

def enumEntity (node : SyntaxNode) : Entity :=
  let entity := (Entity.ofKind .enumType (tagName source node)).onLine node.line
  if (node.child? .body).isSome then entity else entity.asDeclaration

/-- One name in the list that a nested namespace definition gives. -/
def namespaceSegment (text : List Char) : String :=
  String.ofList (Text.trim (Text.without "inline ".toList (Text.trim text)))

def namespaceNames (node : SyntaxNode) : List String :=
  match node.child? .name with
  | none => [""]
  | some name => (Text.splitScopes (name.chars source)).map namespaceSegment

/-- Each namespace of the list holds the next one; the last holds the members. -/
def namespaceChain (line : UInt32) (members : List Entity) : List String → List Entity
  | [] => members
  | name :: names =>
      [((Entity.ofKind .namespaceScope name).holding (namespaceChain line members names)).onLine
        line]

def linkageName (node : SyntaxNode) : String :=
  String.ofList <|
    Text.trimBoth (· == '"') (((node.child? .value).map (·.chars source)).getD [])

def linkageEntity (node : SyntaxNode) (members : List Entity) : Entity :=
  ((Entity.ofKind .languageLinkage (linkageName source node)).holding members).onLine node.line

/-- Directly nested template headers: how many there are, and the node of the last. -/
def templateHeaders (node : SyntaxNode) : Nat × SyntaxNode :=
  match _hnested : node.namedChildren.find? (·.kind == .templateDeclaration) with
  | none => (1, node)
  | some nested =>
      let (layers, innermost) := templateHeaders nested
      (layers + 1, innermost)
termination_by node.size
decreasing_by exact SyntaxNode.size_lt_of_mem_namedChildren (List.mem_of_find?_eq_some ‹_›)

theorem templateHeaders_eq (node : SyntaxNode) :
    templateHeaders node =
      match node.namedChildren.find? (·.kind == .templateDeclaration) with
      | none => (1, node)
      | some nested => ((templateHeaders nested).1 + 1, (templateHeaders nested).2) := by
  rw [templateHeaders]
  split
  · next hnested => rw [hnested]
  · next nested hnested => rw [hnested]

theorem size_templateHeaders_le (node : SyntaxNode) :
    (templateHeaders node).2.size ≤ node.size := by
  fun_induction templateHeaders node with
  | case1 => exact Nat.le_refl _
  | case2 node nested hnested layers innermost heq ih =>
      rw [heq] at ih
      have := SyntaxNode.size_lt_of_mem_namedChildren (List.mem_of_find?_eq_some hnested)
      exact Nat.le_trans ih (Nat.le_of_lt this)

/-- What the last of the nested template headers is put before. -/
def templateContents (node : SyntaxNode) : List SyntaxNode :=
  (templateHeaders node).2.namedChildren.filter (·.kind != .templateParameterList)

theorem size_lt_of_mem_templateContents {child node : SyntaxNode}
    (hmem : child ∈ templateContents node) : child.size < node.size :=
  Nat.lt_of_lt_of_le (SyntaxNode.size_lt_of_mem_namedChildren (List.mem_filter.1 hmem).1)
    (size_templateHeaders_le node)

/-- A member of a class template, defined outside, spends one header for each templated scope of its
name. Only with headers left over is the member itself a template. -/
def markTemplated (layers : Nat) (child : SyntaxNode) (entities : List Entity) : List Entity :=
  if spentHeaders child < layers then entities.map Entity.asTemplated else entities

/-- The entities that a node declares, in source order. -/
def lower (node : SyntaxNode) (owner : Option String) : List Entity :=
  match node.kind with
  | .functionDefinition => (definedCallable? source node owner).toList
  | .declaration | .fieldDeclaration =>
      node.definedType?.toList.attach.flatMap (fun type => lower type.1 none)
        ++ declaredCallables source node owner
  | .typeDefinition => node.definedType?.toList.attach.flatMap fun type => lower type.1 none
  | .namespaceDefinition =>
      namespaceChain node.line
        (node.memberNodes.attach.flatMap fun child => lower child.1 none)
        (namespaceNames source node)
  | .linkageSpecification =>
      [linkageEntity source node
        ((node.child? .body).toList.attach.flatMap fun body => lower body.1 owner)]
  | .classSpecifier | .structSpecifier | .unionSpecifier =>
      [classEntity source node
        (node.memberNodes.attach.flatMap fun child =>
          lower child.1 (some (tagName source node)))]
  | .enumSpecifier => [enumEntity source node]
  | .templateInstantiation =>
      [Entity.around .template
        ((node.definedType?.toList.attach.flatMap (fun type => lower type.1 none)
          ++ declaredCallables source node owner).map Entity.asTemplated)
        node.line]
  | .templateDeclaration =>
      [Entity.around .template
        ((templateContents node).attach.flatMap fun child =>
          markTemplated (templateHeaders node).1 child.1 (lower child.1 owner))
        node.line]
  | .friendDeclaration =>
      [Entity.around .friend
        ((node.namedChildren.attach.flatMap fun child => lower child.1 none).map
          Entity.asFriended)
        node.line]
  | .declarationList | .fieldDeclarationList | .preprocIf | .preprocIfdef | .preprocElse
  | .preprocElif | .preprocElifdef | .error =>
      node.namedChildren.attach.flatMap fun child => lower child.1 owner
  | _ => []
termination_by node.size
decreasing_by
  all_goals
    first
    | exact SyntaxNode.size_lt_of_definedType? (Option.mem_toList.1 type.2)
    | exact SyntaxNode.size_lt_of_child? (Option.mem_toList.1 body.2)
    | exact SyntaxNode.size_lt_of_mem_memberNodes child.2
    | exact size_lt_of_mem_templateContents child.2
    | exact SyntaxNode.size_lt_of_mem_namedChildren child.2

theorem flatMap_attach_val {α β : Type} (items : List α) (f : α → List β) :
    (items.attach.flatMap fun item => f item.1) = items.flatMap f := by
  conv => rhs; rw [← List.attach_map_subtype_val items, List.flatMap_map]

/-- How the kind of a node decides what becomes of the nodes it leads to. -/
theorem lower_eq (node : SyntaxNode) (owner : Option String) :
    lower source node owner =
      match node.kind with
      | .functionDefinition => (definedCallable? source node owner).toList
      | .declaration | .fieldDeclaration =>
          node.definedType?.toList.flatMap (lower source · none)
            ++ declaredCallables source node owner
      | .typeDefinition => node.definedType?.toList.flatMap (lower source · none)
      | .namespaceDefinition =>
          namespaceChain node.line (node.memberNodes.flatMap (lower source · none))
            (namespaceNames source node)
      | .linkageSpecification =>
          [linkageEntity source node
            ((node.child? .body).toList.flatMap (lower source · owner))]
      | .classSpecifier | .structSpecifier | .unionSpecifier =>
          [classEntity source node
            (node.memberNodes.flatMap (lower source · (some (tagName source node))))]
      | .enumSpecifier => [enumEntity source node]
      | .templateInstantiation =>
          [Entity.around .template
            ((node.definedType?.toList.flatMap (lower source · none)
              ++ declaredCallables source node owner).map Entity.asTemplated)
            node.line]
      | .templateDeclaration =>
          [Entity.around .template
            ((templateContents node).flatMap fun child =>
              markTemplated (templateHeaders node).1 child (lower source child owner))
            node.line]
      | .friendDeclaration =>
          [Entity.around .friend
            ((node.namedChildren.flatMap (lower source · none)).map Entity.asFriended)
            node.line]
      | .declarationList | .fieldDeclarationList | .preprocIf | .preprocIfdef | .preprocElse
      | .preprocElif | .preprocElifdef | .error =>
          node.namedChildren.flatMap (lower source · owner)
      | _ => [] := by
  have hplain (nodes : List SyntaxNode) (owner : Option String) :
      (nodes.attach.flatMap fun child => lower source child.1 owner) =
        nodes.flatMap (lower source · owner) :=
    flatMap_attach_val nodes (lower source · owner)
  have hmarked (nodes : List SyntaxNode) (layers : Nat) :
      (nodes.attach.flatMap fun child =>
          markTemplated layers child.1 (lower source child.1 owner)) =
        nodes.flatMap fun child => markTemplated layers child (lower source child owner) :=
    flatMap_attach_val nodes fun child => markTemplated layers child (lower source child owner)
  rw [lower]
  simp only [hplain, hmarked]

/-- The entity tree of a file, whose root spans the whole text from the first line. -/
def fileEntity (name : String) (root : SyntaxNode) : Entity :=
  (Entity.ofFile name (root.namedChildren.flatMap fun child => lower source child none)).onLine 1

end Lowering

end NamingCheck
