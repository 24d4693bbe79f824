import NamingCheck.Proofs.Declarator.FunctionLayer
import NamingCheck.Proofs.Declarator.Scopes
import NamingCheck.Proofs.Lowering.Callables
import NamingCheck.Proofs.Verdict.Forest

/-!
# Which constructors are recognised

A function without a type that is named like its owner is a constructor and owes no verdict. The
owner of a member is its class under the name that `tagOf` gives, which is the last segment of the
class's name unless that is a qualified identifier. The owner of a function defined outside its
class is the innermost scope of its name.
-/

namespace NamingCheck.Lowering

open Declarator (functionName? spelledName? qualifierOf Scoped InFunctionLayer)
open EntityTree (OwesVerdict)

variable (source : ByteArray)

/-- The entity that a node adds by one of its declarators. -/
def entityOf? (node : SyntaxNode) (owner : Option String) (declarator : SyntaxNode) :
    Option Entity :=
  (functionName? source declarator).map fun declared =>
    if node.kind = .functionDefinition then callableEntity node owner declared
    else (callableEntity node owner declared).asDeclaration

/-- The last part of a class's name, without template arguments. -/
inductive LastSegment : String → SyntaxNode → Prop where
  | plain {node : SyntaxNode} (hkind : node.kind = .other "type_identifier") :
      LastSegment (node.text source) node
  | templated {node name : SyntaxNode}
      (hkind : node.kind = .templateType)
      (hchild : node.child? .name = some name)
      (hname : name.kind = .other "type_identifier") :
      LastSegment (name.text source) node
  | qualified {segment : String} {node name : SyntaxNode}
      (hkind : node.kind = .qualifiedIdentifier)
      (hchild : node.child? .name = some name)
      (hname : LastSegment segment name) :
      LastSegment segment node

/-- A qualified class is known to its members by the whole of its name, not by the last segment. -/
def HidesSegment (segment : String) (name : SyntaxNode) : Prop :=
  name.kind = .qualifiedIdentifier ∧ name.text source ≠ segment

instance (segment : String) (name : SyntaxNode) : Decidable (HidesSegment source segment name) :=
  inferInstanceAs (Decidable (_ ∧ _))

/-- The name of a scope, without template arguments. -/
def NamesScope (scope : SyntaxNode) (text : String) : Prop :=
  if scope.kind = .templateType then
    ∃ name, scope.child? .name = some name ∧ name.text source = text
  else scope.text source = text

/-- A member without a type that one of its declarators names like its class. -/
structure NamedLikeClass (cls name member declarator : SyntaxNode) (segment : String) : Prop where
  isClassLike : cls.kind.isClassLike = true
  name_eq : cls.child? .name = some name
  isLast : LastSegment source segment name
  mem_memberNodes : member ∈ cls.memberNodes
  kind_mem : member.kind ∈ introducing
  typeless : member.child? .type = none
  mem_declarators : declarator ∈ declarators member
  functionName?_eq : functionName? source declarator = some (.ofForm .plain segment)

/-- A function without a type that one of its declarators names like the innermost scope in front of
its name. -/
structure NamedLikeScope (node declarator : SyntaxNode) (text : String) : Prop where
  kind_mem : node.kind ∈ introducing
  typeless : node.child? .type = none
  mem_declarators : declarator ∈ declarators node
  named : ∃ qualified name scope scopes,
    InFunctionLayer declarator qualified ∧ Scoped scopes qualified name ∧
      scopes.getLast? = some scope ∧ NamesScope source scope text ∧
      spelledName? source name = some (.ofForm .plain text)

/-- The node adds the entity by the declarator, in the place of the declarator among the others. -/
structure Adds (node : SyntaxNode) (owner : Option String) (declarator : SyntaxNode)
    (entity : Entity) : Prop where
  lower_eq : lower source node owner = (declarators node).filterMap (entityOf? source node owner)
  entityOf?_eq : entityOf? source node owner declarator = some entity
  mem_lower : entity ∈ lower source node owner

variable {source} {node name scope declarator : SyntaxNode} {owner : Option String}
  {segment text : String}

theorem tagOf_of_kind (hkind : node.kind ≠ .templateType)
    (hqualified : node.kind ≠ .qualifiedTypeIdentifier) : tagOf source node = node.text source := by
  rw [tagOf_eq]
  split
  case h_1 heq => exact absurd heq hkind
  case h_2 heq => exact absurd heq hqualified
  case h_3 => rfl

theorem LastSegment.tagOf_eq (hsegment : LastSegment source segment name) :
    tagOf source name = if HidesSegment source segment name then name.text source else segment := by
  cases hsegment with
  | plain hkind =>
      rw [tagOf_of_kind (by rw [hkind]; decide) (by rw [hkind]; decide)]
      simp
  | @templated _ inner hkind hchild hname =>
      have hinner : tagOf source inner = inner.text source :=
        tagOf_of_kind (by rw [hname]; decide) (by rw [hname]; decide)
      have hshown : ¬HidesSegment source (inner.text source) name := by
        intro hhidden
        have hqualified := hhidden.1
        rw [hkind] at hqualified
        cases hqualified
      rw [if_neg hshown, Lowering.tagOf_eq, hkind]
      simp only [hchild, Option.map_some, Option.getD_some]
      exact hinner
  | qualified hkind hchild hname =>
      rw [tagOf_of_kind (by rw [hkind]; decide) (by rw [hkind]; decide)]
      by_cases htext : name.text source = segment <;> simp [HidesSegment, hkind, htext]

theorem NamesScope.qualifierOf_eq (hscope : NamesScope source scope text) :
    qualifierOf source scope = text := by
  rw [NamesScope] at hscope
  rw [qualifierOf]
  split_ifs at hscope with hkind
  · obtain ⟨name, hname, rfl⟩ := hscope
    rw [hkind]
    simp only [hname, Option.map_some, Option.getD_some]
  · split
    case h_1 heq => exact absurd heq hkind
    case h_2 => exact hscope

/-- Without a type, a node adds what its declarators add and nothing else. -/
theorem lower_of_typeless (hkind : node.kind ∈ introducing) (htype : node.child? .type = none)
    (owner : Option String) :
    lower source node owner = (declarators node).filterMap (entityOf? source node owner) := by
  have hdeclared (hdeclaring : node.kind ∈ declaring) :
      node.definedType?.toList.flatMap (lower source · none) ++
          declaredCallables source node owner =
        (declarators node).filterMap (entityOf? source node owner) := by
    have hnone : node.definedType? = none := by
      rw [SyntaxNode.definedType?, htype, Option.filter_none]
    have hother : ¬node.kind = .functionDefinition :=
      beq_eq_false_iff_ne.1 (beq_functionDefinition_of_declaring hdeclaring)
    rw [hnone, declaredCallables, declarators_of_declaring hdeclaring, List.map_filterMap]
    apply List.filterMap_congr
    intro declarator _
    simp only [entityOf?, if_neg hother]
  simp only [introducing, List.mem_cons, List.not_mem_nil, or_false] at hkind
  rcases hkind with hkind | hkind | hkind
  · rw [lower_eq, declarators_of_definition hkind, hkind]
    simp only [definedCallable?]
    cases node.child? .declarator with
    | none => rfl
    | some declarator =>
        simp only [Option.toList_some, Option.bind_some, List.filterMap_cons, entityOf?, hkind]
        cases functionName? source declarator <;> rfl
  · rw [← hdeclared (by rw [hkind]; decide), lower_eq, hkind]
  · rw [← hdeclared (by rw [hkind]; decide), lower_eq, hkind]

theorem entityOf?_of_functionName? {declared : DeclaredName} (owner : Option String)
    (hfound : functionName? source declarator = some declared) :
    ∃ entity, entityOf? source node owner declarator = some entity ∧
      entity.kind = callableKind declared owner (node.child? .type).isSome ∧
      entity.name = declared.name ∧ entity.line = node.line ∧ entity.isTemplated = false ∧
      entity.isFriended = false ∧ entity.children = [] := by
  by_cases hkind : node.kind = .functionDefinition
  · refine ⟨callableEntity node owner declared, ?_, rfl, rfl, rfl, rfl, rfl, rfl⟩
    simp only [entityOf?, hfound, Option.map_some, if_pos hkind]
  · refine ⟨(callableEntity node owner declared).asDeclaration, ?_, rfl, rfl, rfl, rfl, rfl, rfl⟩
    simp only [entityOf?, hfound, Option.map_some, if_neg hkind]

theorem callableKind_of_plain {declared : DeclaredName} (hform : declared.form = .plain)
    (owner : Option String) :
    callableKind declared owner false =
      if declared.qualifier.or owner = some declared.name then .constructor
      else if declared.isQualified || owner.isSome then .memberFunction
      else .function := by
  rw [callableKind, hform]
  simp only [Bool.not_false, Bool.true_and, beq_iff_eq]

theorem verdicts_of_leaf (policy : Policy) {entity : Entity} (hleaf : entity.children = []) :
    policy.verdicts entity = if OwesVerdict entity then [policy.verdict entity] else [] := by
  have hbelow : OrderedTree.children entity = [] := hleaf
  rw [policy.verdicts_eq, hbelow, Policy.forestVerdicts_nil, List.append_nil]

theorem verdicts_of_constructor (policy : Policy) {entity : Entity} (hleaf : entity.children = [])
    (hkind : entity.kind = .constructor) : policy.verdicts entity = [] := by
  rw [verdicts_of_leaf policy hleaf, if_neg]
  rintro ⟨-, -, -, hcallable, -⟩
  have hother : entity.kind ≠ .function ∧ entity.kind ≠ .memberFunction := by
    rw [hkind]
    decide
  exact hcallable.elim hother.1 hother.2

theorem verdicts_of_member (policy : Policy) {entity : Entity} (hleaf : entity.children = [])
    (hkind : entity.kind = .memberFunction) (htemplated : entity.isTemplated = false)
    (hfriended : entity.isFriended = false) (hname : entity.name ≠ "") :
    policy.verdicts entity = [policy.verdict entity] := by
  rw [verdicts_of_leaf policy hleaf, if_pos]
  refine ⟨?_, htemplated, hfriended, Or.inr hkind, hname⟩
  change entity.kind ≠ .file
  rw [hkind]
  decide

theorem adds_of_functionName? {declared : DeclaredName} (hkind : node.kind ∈ introducing)
    (htype : node.child? .type = none) (hdeclarator : declarator ∈ declarators node)
    (owner : Option String) (hfound : functionName? source declarator = some declared) :
    ∃ entity, Adds source node owner declarator entity ∧
      entity.kind = callableKind declared owner false ∧ entity.name = declared.name ∧
      entity.line = node.line ∧ entity.isTemplated = false ∧ entity.isFriended = false ∧
      entity.children = [] := by
  obtain ⟨entity, hentity, hentityKind, hrest⟩ := entityOf?_of_functionName? owner hfound
  rw [htype] at hentityKind
  have hlower : lower source node owner = _ := lower_of_typeless hkind htype owner
  have hmem : entity ∈ lower source node owner := by
    rw [hlower]
    exact List.mem_filterMap.2 ⟨declarator, hdeclarator, hentity⟩
  exact ⟨entity, ⟨hlower, hentity, hmem⟩, hentityKind, hrest⟩

namespace NamedLikeClass

variable {cls member : SyntaxNode}

theorem tagName_eq (hnamed : NamedLikeClass source cls name member declarator segment) :
    tagName source cls =
      if HidesSegment source segment name then name.text source else segment := by
  rw [tagName, hnamed.name_eq, Option.map_some, Option.getD_some, hnamed.isLast.tagOf_eq]

theorem exists_entity (hnamed : NamedLikeClass source cls name member declarator segment)
    (owner : Option String) :
    ∃ lowered entity, lower source cls owner = [lowered] ∧ entity ∈ lowered.children ∧
      Adds source member (some (tagName source cls)) declarator entity ∧
      entity.name = segment ∧ entity.line = member.line ∧
      if HidesSegment source segment name then
        entity.kind = .memberFunction ∧
          (segment ≠ "" → ∀ policy : Policy, policy.verdicts entity = [policy.verdict entity])
      else entity.kind = .constructor ∧ ∀ policy : Policy, policy.verdicts entity = [] := by
  obtain ⟨entity, hadds, hkind, hname, hline, htemplated, hfriended, hleaf⟩ :=
    adds_of_functionName? hnamed.kind_mem hnamed.typeless hnamed.mem_declarators
      (some (tagName source cls)) hnamed.functionName?_eq
  have hchild : entity ∈ (classEntity source cls
      (cls.memberNodes.flatMap (lower source · (some (tagName source cls))))).children := by
    rw [children_classEntity]
    exact List.mem_flatMap.2 ⟨member, hnamed.mem_memberNodes, hadds.mem_lower⟩
  refine ⟨_, entity, lower_class source hnamed.isClassLike owner, hchild, hadds, hname, hline, ?_⟩
  rw [callableKind_of_plain rfl, hnamed.tagName_eq] at hkind
  by_cases hhidden : HidesSegment source segment name
  · have hmember : entity.kind = .memberFunction := by
      rw [hkind, if_pos hhidden]
      simp [DeclaredName.ofForm, hhidden.2]
    rw [if_pos hhidden]
    refine ⟨hmember, fun hsome policy => ?_⟩
    exact verdicts_of_member policy hleaf hmember htemplated hfriended (by rw [hname]; exact hsome)
  · have hconstructor : entity.kind = .constructor := by
      rw [hkind, if_neg hhidden]
      simp [DeclaredName.ofForm]
    rw [if_neg hhidden]
    exact ⟨hconstructor, fun policy => verdicts_of_constructor policy hleaf hconstructor⟩

end NamedLikeClass

theorem NamedLikeScope.exists_entity (hnamed : NamedLikeScope source node declarator text)
    (owner : Option String) :
    ∃ entity, Adds source node owner declarator entity ∧ entity.name = text ∧
      entity.line = node.line ∧ entity.kind = .constructor ∧
        ∀ policy : Policy, policy.verdicts entity = [] := by
  obtain ⟨qualified, name, scope, scopes, hlayer, hscoped, hlast, hscope, hspelled⟩ := hnamed.named
  have hqualified : spelledName? source qualified = _ := hscoped.spelledName?_eq
  rw [hspelled, hlast, Option.map_some, Option.map_some, hscope.qualifierOf_eq] at hqualified
  have hfound := Declarator.functionName?_of_inFunctionLayer hlayer hqualified
  obtain ⟨entity, hadds, hkind, hname, hline, -, -, hleaf⟩ :=
    adds_of_functionName? hnamed.kind_mem hnamed.typeless hnamed.mem_declarators owner hfound
  have hconstructor : entity.kind = .constructor := by
    rw [hkind, callableKind_of_plain rfl]
    simp [DeclaredName.ofForm, DeclaredName.qualify]
  exact ⟨entity, hadds, hname, hline, hconstructor,
    fun policy => verdicts_of_constructor policy hleaf hconstructor⟩

/-- A member that is named like its class becomes a constructor if the name of the class shows its
last segment, and owes a verdict otherwise. A function that is named like the innermost scope in
front of its name always becomes a constructor. -/
theorem exists_entity_of_named_like_owner (source : ByteArray) :
    (∀ (cls name member declarator : SyntaxNode) (segment : String) (owner : Option String),
      NamedLikeClass source cls name member declarator segment →
        ∃ lowered entity, lower source cls owner = [lowered] ∧ entity ∈ lowered.children ∧
          Adds source member (some (tagName source cls)) declarator entity ∧
          entity.name = segment ∧ entity.line = member.line ∧
          if HidesSegment source segment name then
            entity.kind = .memberFunction ∧
              (segment ≠ "" → ∀ policy : Policy,
                policy.verdicts entity = [policy.verdict entity])
          else entity.kind = .constructor ∧ ∀ policy : Policy, policy.verdicts entity = []) ∧
    (∀ (node declarator : SyntaxNode) (text : String) (owner : Option String),
      NamedLikeScope source node declarator text →
        ∃ entity, Adds source node owner declarator entity ∧ entity.name = text ∧
          entity.line = node.line ∧ entity.kind = .constructor ∧
            ∀ policy : Policy, policy.verdicts entity = []) :=
  ⟨fun _ _ _ _ _ owner hnamed => hnamed.exists_entity owner,
    fun _ _ _ owner hnamed => hnamed.exists_entity owner⟩

/-- `a::Box<T>::Box() {}` -/
def boxSource : ByteArray := "a::Box<T>::Box() \x7b\x7d".toUTF8

def boxName : SyntaxNode :=
  { SyntaxNode.blank with kind := .identifier, field := some .name, start := 11, stop := 14 }

def boxScope : SyntaxNode :=
  { SyntaxNode.blank with
    kind := .templateType
    field := some .scope
    start := 3
    stop := 9
    children :=
      [{ SyntaxNode.blank with
         kind := .other "type_identifier", field := some .name, start := 3, stop := 6 }] }

def boxInside : SyntaxNode :=
  { SyntaxNode.blank with
    kind := .qualifiedIdentifier
    field := some .name
    start := 3
    stop := 14
    children := [boxScope, boxName] }

def boxOuterScope : SyntaxNode :=
  { SyntaxNode.blank with
    kind := .other "namespace_identifier", field := some .scope, stop := 1 }

def boxQualified : SyntaxNode :=
  { SyntaxNode.blank with
    kind := .qualifiedIdentifier
    field := some .declarator
    stop := 14
    children := [boxOuterScope, boxInside] }

def boxDeclarator : SyntaxNode :=
  { SyntaxNode.blank with
    kind := .functionDeclarator
    field := some .declarator
    stop := 16
    children := [boxQualified] }

def boxDefinition : SyntaxNode :=
  { SyntaxNode.blank with
    kind := .functionDefinition
    stop := 19
    children := [boxDeclarator] }

theorem exists_entity_of_named_like_owner_box :
    ∃ entity ∈ lower boxSource boxDefinition none,
      entity.name = "Box" ∧ entity.kind = .constructor ∧ Policy.standard.verdicts entity = [] := by
  have hinside : Scoped [boxScope] boxInside boxName :=
    @Scoped.innermost boxInside boxName (by decide) rfl (by decide)
  have hscoped : Scoped [boxOuterScope, boxScope] boxQualified boxName :=
    @Scoped.outer [boxScope] boxQualified boxInside boxName (by decide) rfl hinside
  have hscope : NamesScope boxSource boxScope "Box" := by
    rw [NamesScope, if_pos (show boxScope.kind = .templateType from rfl)]
    exact ⟨_, rfl, by decide +kernel⟩
  have hspelled : spelledName? boxSource boxName = some (.ofForm .plain "Box") := by
    decide +kernel
  have hnamed : NamedLikeScope boxSource boxDefinition boxDeclarator "Box" :=
    { kind_mem := by decide
      typeless := rfl
      mem_declarators := List.mem_singleton_self _
      named := ⟨boxQualified, boxName, boxScope, _, ⟨boxDeclarator, .refl, rfl, rfl⟩, hscoped, rfl,
        hscope, hspelled⟩ }
  obtain ⟨entity, hadds, hname, -, hkind, hverdicts⟩ :=
    (exists_entity_of_named_like_owner boxSource).2 _ _ _ none hnamed
  exact ⟨entity, hadds.mem_lower, hname, hkind, hverdicts Policy.standard⟩

/-- `struct Outer::inner { inner(); };` -/
def innerSource : ByteArray := "struct Outer::inner \x7b inner(); \x7d;".toUTF8

def innerClassName : SyntaxNode :=
  { SyntaxNode.blank with
    kind := .qualifiedIdentifier
    field := some .name
    start := 7
    stop := 19
    children :=
      [{ SyntaxNode.blank with
         kind := .other "namespace_identifier", field := some .scope, start := 7, stop := 12 },
        { SyntaxNode.blank with
          kind := .other "type_identifier", field := some .name, start := 14, stop := 19 }] }

def innerDeclarator : SyntaxNode :=
  { SyntaxNode.blank with
    kind := .functionDeclarator
    field := some .declarator
    start := 22
    stop := 29
    children :=
      [{ SyntaxNode.blank with
         kind := .identifier, field := some .declarator, start := 22, stop := 27 }] }

def innerMember : SyntaxNode :=
  { SyntaxNode.blank with
    kind := .declaration, start := 22, stop := 30, children := [innerDeclarator] }

def innerClass : SyntaxNode :=
  { SyntaxNode.blank with
    kind := .structSpecifier
    stop := 32
    children :=
      [innerClassName,
        { SyntaxNode.blank with
          kind := .fieldDeclarationList
          field := some .body
          start := 20
          stop := 32
          children := [innerMember] }] }

theorem not_forall_constructor_of_namedLikeClass :
    ¬∀ (source : ByteArray) (cls name member declarator : SyntaxNode) (segment : String),
      NamedLikeClass source cls name member declarator segment →
        ∃ entity, entityOf? source member (some (tagName source cls)) declarator = some entity ∧
          entity.kind = .constructor := by
  intro hall
  have hsegment : SyntaxNode.text innerSource
      { SyntaxNode.blank with
        kind := .other "type_identifier", field := some .name, start := 14, stop := 19 } =
        "inner" := by
    decide +kernel
  have hlast : LastSegment innerSource "inner" innerClassName := by
    refine .qualified rfl rfl ?_
    rw [← hsegment]
    exact .plain rfl
  have hfound : functionName? innerSource innerDeclarator = some (.ofForm .plain "inner") := by
    decide +kernel
  have htag : tagName innerSource innerClass = "Outer::inner" := by
    decide +kernel
  obtain ⟨entity, hentity, hkind⟩ := hall innerSource innerClass innerClassName innerMember
    innerDeclarator "inner"
    { isClassLike := rfl
      name_eq := rfl
      isLast := hlast
      mem_memberNodes := List.mem_singleton_self _
      kind_mem := by decide
      typeless := rfl
      mem_declarators := List.mem_singleton_self _
      functionName?_eq := hfound }
  obtain ⟨other, hother, hotherKind, -⟩ :=
    @entityOf?_of_functionName? innerSource innerMember innerDeclarator _
      (some (tagName innerSource innerClass)) hfound
  rw [hother, Option.some.injEq] at hentity
  rw [← hentity, hotherKind, htag] at hkind
  exact absurd hkind (by decide)

end NamingCheck.Lowering
