import Mathlib.Data.List.Forall2
import NamingCheck.Proofs.Declarator.Scopes
import NamingCheck.Proofs.Declarator.Variable
import NamingCheck.Proofs.Lowering.TemplateHeaders
import NamingCheck.Proofs.Text.Parts

/-!
# Functions and members

The lowering hands the name of the class down to what stands in its body. Namespaces and friend
declarations take it away again; templates, linkage blocks and the like pass it on. The same can be
read off the result: the nearest file, namespace, class or friend around a callable is made of the
nearest such node around its declaration, so the callable is a member of just the class in which
the entity tree shows it.
-/

namespace NamingCheck

open List (Forall₂)
open OrderedTree (preorder preorder_eq)

namespace Entity

/-- The kinds that settle to what a function inside belongs. All others are looked through. -/
def owningKinds : List Kind := [.file, .namespaceScope, .classType, .friend]

/-- What a function belongs to, as far as it matters. -/
structure Owner where
  kind : Kind
  name : String
  deriving DecidableEq, Repr

/-- Only a class has members. -/
def Owner.className? (owner : Owner) : Option String :=
  if owner.kind = .classType then some owner.name else none

def ownerInside (entity : Entity) (owner : Owner) : Owner :=
  if entity.kind ∈ owningKinds then ⟨entity.kind, entity.name⟩ else owner

/-- A callable, the kind of entity that it became, and the nearest owner around it. -/
structure PlacedCallable where
  owner : Owner
  kind : Kind
  callable : Callable
  deriving DecidableEq, Repr

def placed? (owner : Owner) (entity : Entity) : Option PlacedCallable :=
  entity.callable?.map fun callable => { owner, kind := entity.kind, callable }

def placedFrom (owner : Owner) (entity : Entity) : List PlacedCallable :=
  (placed? owner entity).toList ++
    entity.children.attach.flatMap fun child => placedFrom (entity.ownerInside owner) child.1
termination_by entity.count
decreasing_by exact OrderedTree.weight_lt_of_mem_children child.2

/-- The callables of a forest in pre-order, each with the nearest owner around it. -/
def placedIn (owner : Owner) (entities : List Entity) : List PlacedCallable :=
  entities.flatMap (placedFrom owner)

/-- The callables of a tree whose root is an owner. -/
def placedCallables (root : Entity) : List PlacedCallable :=
  placedFrom ⟨root.kind, root.name⟩ root

variable {owner : Owner}

theorem placedFrom_eq (owner : Owner) (entity : Entity) :
    placedFrom owner entity =
      (placed? owner entity).toList ++ placedIn (entity.ownerInside owner) entity.children := by
  rw [placedFrom, Lowering.flatMap_attach_val, placedIn]

theorem placedIn_append (left right : List Entity) :
    placedIn owner (left ++ right) = placedIn owner left ++ placedIn owner right :=
  List.flatMap_append

theorem placedIn_flatMap {α : Type} (items : List α) (f : α → List Entity) :
    placedIn owner (items.flatMap f) = items.flatMap fun item => placedIn owner (f item) :=
  List.flatMap_assoc

theorem placedIn_singleton (entity : Entity) :
    placedIn owner [entity] =
      (placed? owner entity).toList ++ placedIn (entity.ownerInside owner) entity.children := by
  rw [placedIn, List.flatMap_singleton, placedFrom_eq]

/-- An entity that is no callable only hands on the owner to what it holds. -/
theorem placedIn_holder {entity : Entity} (hkind : entity.kind.form? = none) :
    placedIn owner [entity] = placedIn (entity.ownerInside owner) entity.children := by
  rw [placedIn_singleton, placed?, callable?, hkind]
  rfl

theorem placedIn_leaf {entity : Entity} (hleaf : entity.children = []) :
    placedIn owner [entity] = (placed? owner entity).toList := by
  rw [placedIn_singleton, hleaf]
  exact List.append_nil _

/-- Marks are not looked at. -/
theorem placedIn_map {f : Entity → Entity}
    (hplaced : ∀ entity, placed? owner (f entity) = placed? owner entity)
    (hinside : ∀ entity, (f entity).ownerInside owner = entity.ownerInside owner)
    (hchildren : ∀ entity, (f entity).children = entity.children) (entities : List Entity) :
    placedIn owner (entities.map f) = placedIn owner entities := by
  rw [placedIn, List.flatMap_map]
  apply List.flatMap_congr
  intro entity _
  rw [placedFrom_eq, placedFrom_eq, hplaced, hinside, hchildren]

theorem placedIn_map_asTemplated (entities : List Entity) :
    placedIn owner (entities.map asTemplated) = placedIn owner entities :=
  placedIn_map (f := asTemplated) (fun _ => rfl) (fun _ => rfl) (fun _ => rfl) entities

theorem placedIn_map_asFriended (entities : List Entity) :
    placedIn owner (entities.map asFriended) = placedIn owner entities :=
  placedIn_map (f := asFriended) (fun _ => rfl) (fun _ => rfl) (fun _ => rfl) entities

theorem map_callable_placedFrom (owner : Owner) (entity : Entity) :
    (placedFrom owner entity).map (·.callable) = (preorder entity).filterMap callable? := by
  have hchildren : (placedIn (entity.ownerInside owner) entity.children).map (·.callable) =
      (entity.children.flatMap preorder).filterMap callable? := by
    rw [placedIn, List.map_flatMap, List.filterMap_flatMap]
    apply List.flatMap_congr
    intro child hchild
    exact map_callable_placedFrom _ child
  have hpreorder : preorder entity = entity :: entity.children.flatMap preorder :=
    preorder_eq entity
  rw [placedFrom_eq, List.map_append, hchildren, hpreorder, placed?]
  cases hcallable : entity.callable? with
  | none => rw [List.filterMap_cons_none hcallable]; rfl
  | some callable => rw [List.filterMap_cons_some hcallable]; rfl
termination_by entity.count
decreasing_by exact OrderedTree.weight_lt_of_mem_children hchild

end Entity

/-! ### Qualified names -/

namespace Declarator

/-- The name has a scope in front of it. A name with template arguments is qualified if it is so
without them. -/
inductive QualifiedName : SyntaxNode → Prop where
  | underScope {node : SyntaxNode} (hkind : node.kind ∈ qualifying) : QualifiedName node
  | specialised {node name : SyntaxNode}
      (hkind : node.kind = .templateFunction)
      (hchild : node.child? .name = some name)
      (hname : QualifiedName name) :
      QualifiedName node

variable {source : ByteArray} {declared : DeclaredName}

theorem qualifiedName_iff_of_kind {node : SyntaxNode} (hkind : node.kind ≠ .templateFunction) :
    QualifiedName node ↔ node.kind ∈ qualifying := by
  refine ⟨fun hqualified => ?_, .underScope⟩
  cases hqualified with
  | underScope hscoped => exact hscoped
  | specialised htemplate _ _ => exact absurd htemplate hkind

theorem qualifiedName_specialised_iff {node name : SyntaxNode}
    (hkind : node.kind = .templateFunction) (hchild : node.child? .name = some name) :
    QualifiedName node ↔ QualifiedName name := by
  refine ⟨fun hqualified => ?_, .specialised hkind hchild⟩
  cases hqualified with
  | underScope hscoped =>
      rw [hkind] at hscoped
      exact absurd hscoped (by decide)
  | specialised _ hother hname =>
      rw [hchild, Option.some.injEq] at hother
      rwa [hother]

/-- What is recorded about scopes is what the name shows. -/
theorem isQualified_iff_of_spelledName? (node : SyntaxNode)
    (hspelled : spelledName? source node = some declared) :
    (declared.isQualified = true ↔ QualifiedName node) ∧
      (declared.qualifier ≠ none → declared.isQualified = true) := by
  obtain ⟨chain, halong⟩ := spelledName?_eq_some_iff.1 hspelled
  clear hspelled
  induction halong with
  | bare htemplate hbare hspelled =>
      rw [eq_ofForm_of_spelledName? htemplate hbare hspelled, qualifiedName_iff_of_kind htemplate]
      exact ⟨iff_of_false Bool.false_ne_true hbare, fun hsome => absurd rfl hsome⟩
  | specialised hkind hname _ ih =>
      rw [qualifiedName_specialised_iff hkind hname]
      exact ih
  | underScope hkind _ _ _ =>
      exact ⟨iff_of_true rfl (.underScope hkind), fun _ => rfl⟩

end Declarator

namespace Lowering

open Declarator (Carries InFunctionLayer QualifiedName functionName?)
open Entity (Owner PlacedCallable placedCallables placedIn)

variable (source : ByteArray)

/-! ### The same on the side of the syntax -/

/-- The kinds of nodes that become owners. -/
def owning : List SyntaxKind := withMembers ++ [.friendDeclaration]

/-- The nearest such node around what a node leads to; none where only the file is around it. -/
def scopeInside (node : SyntaxNode) (scope : Option SyntaxNode) : Option SyntaxNode :=
  if node.kind ∈ owning then some node else scope

/-- The visited nodes, each with the nearest owning node around it. -/
def visitedWithin (scope : Option SyntaxNode) (node : SyntaxNode) :
    List (Option SyntaxNode × SyntaxNode) :=
  ((steps node).attach.flatMap fun child => visitedWithin (scopeInside node scope) child.1)
    ++ [(scope, node)]
termination_by node.size
decreasing_by exact size_lt_of_mem_steps child.2

def scopedVisits (root : SyntaxNode) : List (Option SyntaxNode × SyntaxNode) :=
  root.namedChildren.flatMap (visitedWithin none)

/-- An origin that has a name, and what is around it. -/
structure Introduction extends Origin where
  scope : Option SyntaxNode
  declared : DeclaredName

def Introduction.callable (introduction : Introduction) : Callable :=
  introduction.toOrigin.callable introduction.declared

def introductions (visit : Option SyntaxNode × SyntaxNode) : List Introduction :=
  (declarators visit.2).filterMap fun declarator =>
    (functionName? source declarator).map fun declared =>
      { node := visit.2, declarator, scope := visit.1, declared }

def ownerKind : Option SyntaxNode → Entity.Kind
  | none => .file
  | some scope =>
      if scope.kind = .namespaceDefinition then .namespaceScope
      else if scope.kind = .friendDeclaration then .friend
      else .classType

/-- The owner is made of the node, or is the file if there is none. -/
structure Mirrors (scope : Option SyntaxNode) (owner : Owner) : Prop where
  kind_eq : owner.kind = ownerKind scope
  name_eq : ∀ cls, scope = some cls → cls.kind.isClassLike = true → owner.name = tagName source cls

/-- The callable is the one introduced, as its owner has it. -/
structure Follows (place : PlacedCallable) (introduction : Introduction) : Prop where
  functionName?_eq : functionName? source introduction.declarator = some introduction.declared
  callable_eq : place.callable = introduction.callable
  mirrors : Mirrors source introduction.scope place.owner
  kind_eq : place.kind = callableKind introduction.declared place.owner.className?
    (introduction.node.child? .type).isSome

variable {source} {node : SyntaxNode} {scope : Option SyntaxNode} {owner : Owner}

theorem visitedWithin_eq (scope : Option SyntaxNode) (node : SyntaxNode) :
    visitedWithin scope node =
      (steps node).flatMap (visitedWithin (scopeInside node scope)) ++ [(scope, node)] := by
  rw [visitedWithin, flatMap_attach_val]

theorem map_snd_visitedWithin (scope : Option SyntaxNode) (node : SyntaxNode) :
    (visitedWithin scope node).map Prod.snd = visitedFrom node := by
  have hsteps : ((steps node).flatMap (visitedWithin (scopeInside node scope))).map Prod.snd =
      (steps node).flatMap visitedFrom := by
    rw [List.map_flatMap]
    apply List.flatMap_congr
    intro child hchild
    exact map_snd_visitedWithin _ child
  rw [visitedWithin_eq, List.map_append, hsteps, visitedFrom_eq]
  rfl
termination_by node.size
decreasing_by exact size_lt_of_mem_steps hchild

theorem map_snd_scopedVisits (root : SyntaxNode) :
    (scopedVisits root).map Prod.snd = visited root := by
  rw [scopedVisits, List.map_flatMap, visited]
  exact List.flatMap_congr fun child _ => map_snd_visitedWithin none child

/-! ### What each entity does to the owner -/

section Placed

variable {members : List Entity}

theorem placedIn_linkageEntity :
    placedIn owner [linkageEntity source node members] = placedIn owner members :=
  Entity.placedIn_holder rfl

theorem placedIn_classEntity :
    placedIn owner [classEntity source node members] =
      placedIn ⟨.classType, tagName source node⟩ members := by
  rw [classEntity]
  split_ifs <;> exact Entity.placedIn_holder rfl

theorem placedIn_enumEntity : placedIn owner [enumEntity source node] = [] := by
  rw [enumEntity]
  split_ifs <;> exact Entity.placedIn_holder rfl

theorem placedIn_template (inner : List Entity) (line : UInt32) :
    placedIn owner [Entity.around .template inner line] = placedIn owner inner :=
  Entity.placedIn_holder rfl

theorem placedIn_friend (owner : Owner) (inner : List Entity) (line : UInt32) :
    ∃ name, placedIn owner [Entity.around .friend inner line] = placedIn ⟨.friend, name⟩ inner :=
  ⟨_, Entity.placedIn_holder rfl⟩

theorem placedIn_markTemplated (layers : Nat) (child : SyntaxNode) :
    placedIn owner (markTemplated layers child members) = placedIn owner members := by
  rw [markTemplated]
  split_ifs
  · exact Entity.placedIn_map_asTemplated members
  · rfl

/-- A nested namespace is one chain, and the members belong to its last link. -/
theorem placedIn_namespaceChain (owner : Owner) (line : UInt32) (members : List Entity)
    {names : List String} (hnames : names ≠ []) :
    ∃ name, placedIn owner (namespaceChain line members names) =
      placedIn ⟨.namespaceScope, name⟩ members := by
  induction names generalizing owner with
  | nil => exact absurd rfl hnames
  | cons name names ih =>
      have hlink : placedIn owner (namespaceChain line members (name :: names)) =
          placedIn ⟨.namespaceScope, name⟩ (namespaceChain line members names) :=
        Entity.placedIn_holder rfl
      cases names with
      | nil => exact ⟨name, hlink⟩
      | cons next names =>
          obtain ⟨last, hlast⟩ := ih ⟨.namespaceScope, name⟩ (List.cons_ne_nil _ _)
          exact ⟨last, hlink.trans hlast⟩

theorem namespaceNames_ne_nil (source : ByteArray) (node : SyntaxNode) :
    namespaceNames source node ≠ [] := by
  rw [namespaceNames]
  split
  · exact List.cons_ne_nil _ _
  · simpa using Text.splitScopes_ne_nil _

end Placed

/-! ### One node -/

theorem placed?_callableEntity (node : SyntaxNode) (owner : Owner) (declared : DeclaredName) :
    Entity.placed? owner (callableEntity node owner.className? declared) =
      some ⟨owner, callableKind declared owner.className? (node.child? .type).isSome,
        callableOf node true declared⟩ := by
  rw [Entity.placed?, callable?_callableEntity]
  rfl

theorem placed?_asDeclaration (node : SyntaxNode) (owner : Owner) (declared : DeclaredName) :
    Entity.placed? owner (callableEntity node owner.className? declared).asDeclaration =
      some ⟨owner, callableKind declared owner.className? (node.child? .type).isSome,
        callableOf node false declared⟩ := by
  rw [Entity.placed?, callable?_callableEntity_asDeclaration]
  rfl

theorem follows_definedCallable? (hmirrors : Mirrors source scope owner)
    (hkind : node.kind = .functionDefinition) :
    Forall₂ (Follows source)
      (placedIn owner (definedCallable? source node owner.className?).toList)
      (introductions source (scope, node)) := by
  rw [introductions, declarators_of_definition hkind, definedCallable?]
  cases node.child? .declarator with
  | none => exact .nil
  | some declarator =>
      simp only [Option.bind_some, Option.toList_some, List.filterMap_cons, List.filterMap_nil]
      cases hfound : functionName? source declarator with
      | none => exact .nil
      | some declared =>
          have hcallable : (Origin.mk node declarator).callable declared = _ :=
            Origin.callable_of_definition hkind declared
          rw [Option.map_some, Option.toList_some, Entity.placedIn_leaf rfl,
            placed?_callableEntity]
          exact .cons ⟨hfound, hcallable.symm, hmirrors, rfl⟩ .nil

theorem follows_declaredCallables (hmirrors : Mirrors source scope owner)
    (hkind : node.kind ∈ declaring) :
    Forall₂ (Follows source) (placedIn owner (declaredCallables source node owner.className?))
      (introductions source (scope, node)) := by
  rw [declaredCallables, introductions, declarators_of_declaring hkind, List.map_filterMap]
  induction node.childrenIn .declarator with
  | nil => exact .nil
  | cons declarator rest ih =>
      rw [List.filterMap_cons, List.filterMap_cons]
      cases hfound : functionName? source declarator with
      | none => exact ih
      | some declared =>
          have hfirst : Forall₂ (Follows source)
              (placedIn owner [(callableEntity node owner.className? declared).asDeclaration])
              [{ node, declarator, scope, declared }] := by
            have hcallable : (Origin.mk node declarator).callable declared = _ :=
              Origin.callable_of_declaring hkind declared
            rw [Entity.placedIn_leaf rfl, placed?_asDeclaration]
            exact .cons ⟨hfound, hcallable.symm, hmirrors, rfl⟩ .nil
          simp only [Option.map_some]
          rw [← List.singleton_append, Entity.placedIn_append]
          exact List.rel_append hfirst ih

theorem mirrors_namespace (hkind : node.kind = .namespaceDefinition) (name : String) :
    Mirrors source (some node) ⟨.namespaceScope, name⟩ where
  kind_eq := by rw [ownerKind, if_pos hkind]
  name_eq := by
    rintro cls ⟨⟩ hclass
    rw [hkind] at hclass
    cases hclass

theorem mirrors_friend (hkind : node.kind = .friendDeclaration) (name : String) :
    Mirrors source (some node) ⟨.friend, name⟩ where
  kind_eq := by rw [ownerKind, if_neg (by rw [hkind]; decide), if_pos hkind]
  name_eq := by
    rintro cls ⟨⟩ hclass
    rw [hkind] at hclass
    cases hclass

theorem mirrors_class (hclass : node.kind.isClassLike = true) :
    Mirrors source (some node) ⟨.classType, tagName source node⟩ where
  kind_eq := by
    have hother : node.kind ≠ .namespaceDefinition ∧ node.kind ≠ .friendDeclaration := by
      constructor <;> rintro hkind <;> rw [hkind] at hclass <;> cases hclass
    rw [ownerKind, if_neg hother.1, if_neg hother.2]
  name_eq := by
    rintro cls ⟨⟩ _
    rfl

theorem flatMap_definedType?_lower (node : SyntaxNode) (owner : Option String) :
    node.definedType?.toList.flatMap (lower source · none) =
      node.definedType?.toList.flatMap (lower source · owner) := by
  apply List.flatMap_congr
  intro type htype
  have hdefinable := (definedType?_eq_some_iff.1 (Option.mem_toList.1 htype)).2.1
  exact lower_definable_eq hdefinable none owner

theorem forall₂_flatMap {α β γ : Type} {R : β → γ → Prop} {items : List α} {f : α → List β}
    {g : α → List γ} (hitems : ∀ item ∈ items, Forall₂ R (f item) (g item)) :
    Forall₂ R (items.flatMap f) (items.flatMap g) := by
  induction items with
  | nil => exact .nil
  | cons first rest ih =>
      rw [List.forall_mem_cons] at hitems
      exact List.rel_append hitems.1 (ih hitems.2)

/-- What a node makes of the owner around it, and which callables it adds by itself. -/
structure Splits (source : ByteArray) (scope : Option SyntaxNode) (owner : Owner)
    (node : SyntaxNode) (inside : Owner) (own : List PlacedCallable) : Prop where
  mirrors : Mirrors source (scopeInside node scope) inside
  placedIn_eq : placedIn owner (lower source node owner.className?) =
    placedIn inside ((steps node).flatMap (lower source · inside.className?)) ++ own
  follows : Forall₂ (Follows source) own (introductions source (scope, node))

namespace Splits

/-- A node that only hands on what it is given. -/
theorem of_passing (node : SyntaxNode) (hmirrors : Mirrors source scope owner)
    (hkind : node.kind ∉ owning) (hnone : declarators node = [])
    (hplaced : placedIn owner (lower source node owner.className?) =
      placedIn owner ((steps node).flatMap (lower source · owner.className?))) :
    Splits source scope owner node owner [] where
  mirrors := by rwa [scopeInside, if_neg hkind]
  placedIn_eq := by rw [hplaced, List.append_nil]
  follows := by
    rw [introductions, hnone]
    exact .nil

/-- A node that becomes an owner itself. -/
theorem of_owning (node : SyntaxNode) (scope : Option SyntaxNode) (owner : Owner) {inside : Owner}
    (hmirrors : Mirrors source (some node) inside) (hkind : node.kind ∈ owning)
    (hnone : declarators node = [])
    (hplaced : placedIn owner (lower source node owner.className?) =
      placedIn inside ((steps node).flatMap (lower source · inside.className?))) :
    Splits source scope owner node inside [] where
  mirrors := by rwa [scopeInside, if_pos hkind]
  placedIn_eq := by rw [hplaced, List.append_nil]
  follows := by
    rw [introductions, hnone]
    exact .nil

/-- A node that declares functions, behind the type that it may define. -/
theorem of_declaring (node : SyntaxNode) (hmirrors : Mirrors source scope owner)
    (hkind : node.kind ∈ declaring) (hsteps : steps node = node.definedType?.toList)
    (hplaced : placedIn owner (lower source node owner.className?) =
      placedIn owner ((steps node).flatMap (lower source · none) ++
        declaredCallables source node owner.className?)) :
    Splits source scope owner node owner
      (placedIn owner (declaredCallables source node owner.className?)) where
  mirrors := by
    have hother : ∀ kind ∈ declaring, kind ∉ owning := by decide
    rwa [scopeInside, if_neg (hother _ hkind)]
  placedIn_eq := by rw [hplaced, Entity.placedIn_append, hsteps, flatMap_definedType?_lower]
  follows := follows_declaredCallables hmirrors hkind

end Splits

/-- One step: what the node leads to belongs to the owner that the node makes. -/
theorem exists_splits (node : SyntaxNode) (hmirrors : Mirrors source scope owner) :
    ∃ inside own, Splits source scope owner node inside own := by
  have hpassing := Splits.of_passing node hmirrors
  have hdeclaring := Splits.of_declaring node hmirrors
  have howning (inside : Owner) (hinside : Mirrors source (some node) inside) :=
    Splits.of_owning node scope owner hinside
  rw [lower_eq, steps] at hpassing hdeclaring howning
  rw [declarators] at hpassing howning
  cases hkind : node.kind <;> rw [hkind] at hpassing hdeclaring howning
  case functionDefinition =>
    refine ⟨owner, _, by rwa [scopeInside, if_neg (by rw [hkind]; decide)], ?_,
      follows_definedCallable? hmirrors hkind⟩
    rw [lower_eq, steps, hkind]
    rfl
  case declaration | fieldDeclaration => exact ⟨_, _, hdeclaring (by decide) rfl rfl⟩
  case templateInstantiation =>
    refine ⟨_, _, hdeclaring (by decide) rfl ?_⟩
    exact (placedIn_template _ _).trans (Entity.placedIn_map_asTemplated _)
  case typeDefinition =>
    exact ⟨_, _, hpassing (by decide) rfl (congrArg _ (flatMap_definedType?_lower node _))⟩
  case namespaceDefinition =>
    obtain ⟨name, hname⟩ := placedIn_namespaceChain owner node.line
      (node.memberNodes.flatMap (lower source · none)) (namespaceNames_ne_nil source node)
    exact ⟨_, _, howning _ (mirrors_namespace hkind name) (by decide) rfl hname⟩
  case linkageSpecification => exact ⟨_, _, hpassing (by decide) rfl placedIn_linkageEntity⟩
  case classSpecifier | structSpecifier | unionSpecifier =>
    have hclass : node.kind.isClassLike = true := by
      rw [hkind]
      rfl
    exact ⟨_, _, howning _ (mirrors_class hclass) (by decide) rfl placedIn_classEntity⟩
  case enumSpecifier => exact ⟨_, _, hpassing (by decide) rfl placedIn_enumEntity⟩
  case templateDeclaration =>
    refine ⟨_, _, hpassing (by decide) rfl ((placedIn_template _ _).trans ?_)⟩
    rw [Entity.placedIn_flatMap]
    simp only [placedIn_markTemplated]
    exact (Entity.placedIn_flatMap _ _).symm
  case friendDeclaration =>
    obtain ⟨name, hname⟩ := placedIn_friend owner
      ((node.namedChildren.flatMap (lower source · none)).map Entity.asFriended) node.line
    exact ⟨_, _, howning _ (mirrors_friend hkind name) (by decide) rfl
      (hname.trans (Entity.placedIn_map_asFriended _))⟩
  case declarationList | fieldDeclarationList | preprocIf | preprocIfdef | preprocElse |
      preprocElif | preprocElifdef | error =>
    exact ⟨_, _, hpassing (by decide) rfl rfl⟩
  -- No other node is entered or introduces anything.
  all_goals exact ⟨_, _, hpassing (by simp [owning, withMembers]) rfl rfl⟩

/-- All steps: the callables of a lowered node belong to what is around their declarations. -/
theorem follows_lower (node : SyntaxNode) {scope : Option SyntaxNode} {owner : Owner}
    (hmirrors : Mirrors source scope owner) :
    Forall₂ (Follows source) (placedIn owner (lower source node owner.className?))
      ((visitedWithin scope node).flatMap (introductions source)) := by
  obtain ⟨inside, own, hsplits⟩ := exists_splits node hmirrors
  have hchildren : Forall₂ (Follows source)
      (placedIn inside ((steps node).flatMap (lower source · inside.className?)))
      (((steps node).flatMap (visitedWithin (scopeInside node scope))).flatMap
        (introductions source)) := by
    have hall : ∀ child ∈ steps node,
        Forall₂ (Follows source) (placedIn inside (lower source child inside.className?))
          ((visitedWithin (scopeInside node scope) child).flatMap (introductions source)) :=
      fun child hchild => follows_lower child hsplits.mirrors
    rw [Entity.placedIn_flatMap, List.flatMap_assoc]
    exact forall₂_flatMap hall
  rw [hsplits.placedIn_eq, visitedWithin_eq, List.flatMap_append, List.flatMap_singleton]
  exact List.rel_append hchildren hsplits.follows
termination_by node.size
decreasing_by exact size_lt_of_mem_steps hchild

theorem follows_fileEntity (source : ByteArray) (name : String) (root : SyntaxNode) :
    Forall₂ (Follows source) (placedCallables (fileEntity source name root))
      ((scopedVisits root).flatMap (introductions source)) := by
  have hfile : Mirrors source none ⟨.file, name⟩ := ⟨rfl, nofun⟩
  have hplaced : placedCallables (fileEntity source name root) =
      placedIn ⟨.file, name⟩ (root.namedChildren.flatMap (lower source · none)) :=
    Entity.placedFrom_eq _ _
  rw [hplaced, scopedVisits, Entity.placedIn_flatMap, List.flatMap_assoc]
  exact forall₂_flatMap fun child _ => follows_lower child hfile

/-! ### What the owner decides -/

/-- What a plain callable became fits to its nearest owner: in a class a member or a constructor,
elsewhere this only under a qualified name. -/
structure Belongs (source : ByteArray) (place : PlacedCallable) (introduction : Introduction) :
    Prop where
  callable_eq : place.callable = introduction.callable
  mirrors : Mirrors source introduction.scope place.owner
  of_class : place.callable.form = .plain → place.owner.kind = .classType →
    place.kind = .memberFunction ∨ place.kind = .constructor
  of_other : place.callable.form = .plain → place.owner.kind ≠ .classType →
    ∃ name, InFunctionLayer introduction.declarator name ∧
      Carries source name introduction.declared ∧
      (place.kind = .function ∧ ¬QualifiedName name ∨
        (place.kind = .memberFunction ∨ place.kind = .constructor) ∧ QualifiedName name)

theorem callableKind_of_some {declared : DeclaredName} (hform : declared.form = .plain)
    (owner : String) (hasType : Bool) :
    callableKind declared (some owner) hasType = .memberFunction ∨
      callableKind declared (some owner) hasType = .constructor := by
  rw [callableKind, hform]
  simp only [Option.isSome_some, Bool.or_true, if_true]
  split_ifs
  · exact Or.inr rfl
  · exact Or.inl rfl

/-- Without a class around it, only a qualified name has a qualifier that it may be equal to. -/
theorem callableKind_of_none {declared : DeclaredName} (hform : declared.form = .plain)
    (hqualifier : declared.qualifier ≠ none → declared.isQualified = true) (hasType : Bool) :
    callableKind declared none hasType = .function ∧ declared.isQualified = false ∨
      (callableKind declared none hasType = .memberFunction ∨
        callableKind declared none hasType = .constructor) ∧ declared.isQualified = true := by
  rw [callableKind, hform]
  simp only [Option.or_none, Option.isSome_none, Bool.or_false]
  cases hqualified : declared.isQualified with
  | true =>
      refine Or.inr ⟨?_, rfl⟩
      simp only [if_true]
      split_ifs
      · exact Or.inr rfl
      · exact Or.inl rfl
  | false =>
      have hnone : declared.qualifier = none := by
        by_contra hsome
        rw [hqualifier hsome] at hqualified
        cases hqualified
      rw [hnone]
      simp

theorem Follows.belongs {place : PlacedCallable} {introduction : Introduction}
    (hfollows : Follows source place introduction) : Belongs source place introduction := by
  have hform : place.callable.form = introduction.declared.form := by
    rw [hfollows.callable_eq]
    rfl
  refine ⟨hfollows.callable_eq, hfollows.mirrors, fun hplain hclass => ?_,
    fun hplain hother => ?_⟩
  · rw [hfollows.kind_eq, Owner.className?, if_pos hclass]
    exact callableKind_of_some (hform ▸ hplain) _ _
  · rw [hform] at hplain
    obtain ⟨name, hlayer, hcarries⟩ :=
      (Declarator.inFunctionLayer_of_functionName? hfollows.functionName?_eq).resolve_left
        (by rw [hplain]; decide)
    obtain ⟨hqualified, hqualifier⟩ := Declarator.isQualified_iff_of_spelledName? name hcarries.2
    refine ⟨name, hlayer, hcarries, ?_⟩
    rw [← hqualified, Bool.not_eq_true, hfollows.kind_eq, Owner.className?, if_neg hother]
    exact callableKind_of_none hplain hqualifier _

/-- The callables of a file, in pre-order, are those that the visited nodes introduce, and each has
as its nearest owner what was made of the nearest class, namespace or friend declaration around the
node that introduces it. In a class a plain callable is a member or a constructor; anywhere else it
is one just if its name is qualified, and else a function. -/
theorem callables_belong (source : ByteArray) (name : String) (root : SyntaxNode) :
    (placedCallables (fileEntity source name root)).map (·.callable) =
        (preorder (fileEntity source name root)).filterMap Entity.callable? ∧
      (scopedVisits root).map Prod.snd = visited root ∧
      Forall₂ (Belongs source) (placedCallables (fileEntity source name root))
        ((scopedVisits root).flatMap (introductions source)) :=
  ⟨Entity.map_callable_placedFrom _ _, map_snd_scopedVisits root,
    (follows_fileEntity source name root).imp fun _ _ hfollows => hfollows.belongs⟩

end Lowering

end NamingCheck
