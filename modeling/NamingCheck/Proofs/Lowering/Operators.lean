import Mathlib.Data.List.Forall2
import NamingCheck.Proofs.Declarator.Operators
import NamingCheck.Proofs.Declarator.Variable
import NamingCheck.Proofs.Lowering.Coherent
import NamingCheck.Proofs.Verdict.Forest
import NamingCheck.Proofs.Verdict.Rules

/-!
# Operators always pass

The callables of a file and the declarators that name a function answer to one another, in order.
So a callable whose declarator ends in an operator bears the name of that operator, and whatever the
source spells, this name begins with the keyword that the policy accepts.
-/

namespace NamingCheck

open OrderedTree (preorder)

/-- Lists of which the same results are taken answer to one another where there are results. -/
theorem forall₂_of_filterMap_eq {α β γ : Type} {f : α → Option γ} {g : β → Option γ}
    {left : List α} {right : List β} (hsame : left.filterMap f = right.filterMap g) :
    List.Forall₂ (fun a b => f a = g b) (left.filter fun a => (f a).isSome)
      (right.filter fun b => (g b).isSome) := by
  have hresults {δ : Type} (h : δ → Option γ) (items : List δ) :
      (items.filter fun item => (h item).isSome).map h = (items.filterMap h).map some := by
    induction items with
    | nil => rfl
    | cons first rest ih =>
        cases hfirst : h first with
        | none =>
            rw [List.filter_cons_of_neg (by simp [hfirst]), ih, List.filterMap_cons_none hfirst]
        | some result =>
            rw [List.filter_cons_of_pos (by simp [hfirst]), List.map_cons, ih, hfirst,
              List.filterMap_cons_some hfirst, List.map_cons]
  have hall : List.Forall₂ (· = ·) ((left.filter fun a => (f a).isSome).map f)
      ((right.filter fun b => (g b).isSome).map g) := by
    rw [List.forall₂_eq_eq_eq, hresults, hresults, hsame]
  rwa [List.forall₂_map_left_iff, List.forall₂_map_right_iff] at hall

namespace Lowering

open Declarator (EndsInOperator IsOperatorText functionName? operatorNameOf operatorKeyword
  operatorText)
open EntityTree (OwesVerdict)
open Text (withoutBlanks)

variable (source : ByteArray)

def origins (root : SyntaxNode) : List Origin :=
  (visited root).flatMap fun node => (declarators node).map (Origin.mk node)

def originOf? (origin : Origin) : Option Callable :=
  (functionName? source origin.declarator).map origin.callable

theorem introduced_eq (node : SyntaxNode) :
    introduced source node =
      ((declarators node).map (Origin.mk node)).filterMap (originOf? source) := by
  rw [introduced, introducedBy, List.map_filterMap, List.filterMap_map]
  rfl

/-- The callables of a file and their origins, in the same order. -/
theorem forall₂_origins (name : String) (root : SyntaxNode) :
    List.Forall₂ (fun entity origin => Entity.callable? entity = originOf? source origin)
      ((preorder (fileEntity source name root)).filter fun entity => entity.callable?.isSome)
      ((origins root).filter fun origin => (originOf? source origin).isSome) := by
  apply forall₂_of_filterMap_eq
  rw [filterMap_callable?_fileEntity, origins, List.filterMap_flatMap]
  exact List.flatMap_congr fun node _ => introduced_eq source node

variable {source}

theorem name_of_endsInOperator {entity : Entity} {origin : Origin} {operator : SyntaxNode}
    (hsame : entity.callable? = originOf? source origin)
    (hends : EndsInOperator origin.declarator operator) :
    entity.name = operatorNameOf source operator := by
  obtain ⟨declared, hfound, hname, -⟩ := hends.functionName? source
  rw [originOf?, hfound, Option.map_some, Entity.callable?] at hsame
  obtain ⟨form, -, hcallable⟩ := Option.map_eq_some_iff.1 hsame
  rw [← hname]
  exact congrArg Callable.name hcallable

/-- The entity is a callable whose declarator ends in the operator, or a wrapper, which has no name
of its own, around such an entity. -/
inductive NamedForOperator (source : ByteArray) (name : String) (root : SyntaxNode)
    (operator : SyntaxNode) : Entity → Prop where
  | callable {entity : Entity} {origin : Origin}
      (hpair : (entity, origin) ∈
        ((preorder (fileEntity source name root)).filter fun entity => entity.callable?.isSome).zip
          ((origins root).filter fun origin => (originOf? source origin).isSome))
      (hends : EndsInOperator origin.declarator operator) :
      NamedForOperator source name root operator entity
  | wrapper {entity first : Entity}
      (hentity : entity ∈ preorder (fileEntity source name root))
      (hkind : entity.kind = .template ∨ entity.kind = .friend)
      (hfirst : entity.children.head? = some first)
      (hnamed : NamedForOperator source name root operator first) :
      NamedForOperator source name root operator entity

theorem NamedForOperator.name_eq {name : String} {root operator : SyntaxNode} {entity : Entity}
    (hnamed : NamedForOperator source name root operator entity) :
    entity.name = operatorNameOf source operator := by
  induction hnamed with
  | callable hpair hends =>
      exact name_of_endsInOperator ((List.forall₂_iff_zip.1 (forall₂_origins source name root)).2
        hpair) hends
  | wrapper hentity hkind hfirst _ ih =>
      rw [(coherent_of_mem_fileEntity hentity).name_eq hkind, hfirst]
      exact ih

theorem beginsWithOperator_operatorNameOf (operator : SyntaxNode) :
    BeginsWithOperator (operatorNameOf source operator) := by
  obtain ⟨rest, hrest⟩ :=
    (Declarator.isOperatorText_operatorText (operator.chars source)).beginsWithKeyword
  refine ⟨String.ofList rest, ?_⟩
  rw [operatorNameOf, ← hrest, String.ofList_append]
  rfl

/-- A name that begins as an operator's does is accepted, for its beginning unless it is exempt. -/
theorem ownVerdict?_of_beginsWithOperator (policy : Policy) {entity : Entity}
    (hcallable : entity.kind.isCallable = true) (hname : BeginsWithOperator entity.name) :
    policy.ownVerdict? entity =
      if entity.isTemplated || entity.isFriended then none
      else some
        { name := entity.name
          kind := entity.kind
          line := entity.line
          compliant := true
          rule :=
            some (if entity.name ∈ policy.exemptNames then .exemptName
              else .operatorOverload) } := by
  have hkind := (EntityTree.isCallable_iff entity.kind).1 hcallable
  have hfile : entity.kind ≠ .file := by
    rcases hkind with hkind | hkind <;> rw [hkind] <;> decide
  have hempty : entity.name ≠ "" := by
    obtain ⟨rest, hrest⟩ := hname
    rw [hrest]
    intro hnil
    exact absurd (String.append_eq_empty_iff.1 hnil).1 (by decide)
  have howes : OwesVerdict entity ↔ ¬(entity.isTemplated || entity.isFriended) = true := by
    rw [Bool.or_eq_true, not_or, Bool.not_eq_true, Bool.not_eq_true]
    exact ⟨fun h => ⟨h.2.1, h.2.2.1⟩, fun h => ⟨hfile, h.1, h.2, hkind, hempty⟩⟩
  have hrule : policy.acceptingRule? entity.name =
      some (if entity.name ∈ policy.exemptNames then .exemptName else .operatorOverload) := by
    rw [Policy.acceptingRule?_eq, apply_ite some]
    exact if_congr Iff.rfl rfl (if_pos hname)
  rw [Policy.ownVerdict?]
  by_cases hshielded : (entity.isTemplated || entity.isFriended) = true
  · rw [if_neg fun h => howes.1 h hshielded, if_pos hshielded]
  · rw [if_pos (howes.2 hshielded), if_neg hshielded, Policy.verdict]
    change some (Verdict.mk _ _ _ (policy.acceptingRule? entity.name).isSome
      (policy.acceptingRule? entity.name)) = _
    rw [hrule]
    rfl

theorem verdicts_eq_filterMap_callables (policy : Policy) (root : Entity) :
    policy.verdicts root =
      ((preorder root).filter fun entity => entity.callable?.isSome).filterMap
        policy.ownVerdict? := by
  rw [policy.verdicts_eq_filterMap, List.filterMap_filter]
  refine List.filterMap_congr fun entity _ => ?_
  by_cases howes : OwesVerdict entity
  · obtain ⟨callable, hcallable, -⟩ := exists_callable?_of_owesVerdict howes
    rw [hcallable, Option.isSome_some, if_pos rfl]
  · rw [Policy.ownVerdict?, if_neg howes, ite_self]

/-- Callables and their origins answer to one another. Where the declarator ends in an operator, the
callable bears its name in the one form that such names have, and gets a verdict that accepts it, or
none for its template or friend. -/
theorem operators_pass (source : ByteArray) (policy : Policy) (name : String) (root : SyntaxNode) :
    let file := fileEntity source name root
    let entities := (preorder file).filter fun entity => entity.callable?.isSome
    let found := (origins root).filter fun origin => (originOf? source origin).isSome
    policy.verdicts file = entities.filterMap policy.ownVerdict? ∧
    List.Forall₂
      (fun entity origin =>
        entity.callable? = originOf? source origin ∧
        ∀ operator, EndsInOperator origin.declarator operator →
          entity.name = operatorNameOf source operator ∧
          (entity.kind.isCallable = true →
            policy.ownVerdict? entity =
              if entity.isTemplated || entity.isFriended then none
              else some
                { name := entity.name
                  kind := entity.kind
                  line := entity.line
                  compliant := true
                  rule :=
                    some (if entity.name ∈ policy.exemptNames then .exemptName
                      else .operatorOverload) }))
      entities found ∧
    (∀ text, IsOperatorText (operatorText text)) ∧
    (∀ text, operatorText (operatorText text) = operatorText text) ∧
    ∀ left right,
      operatorText (operatorKeyword ++ left) = operatorText (operatorKeyword ++ right) ↔
        withoutBlanks (operatorKeyword ++ left) = withoutBlanks (operatorKeyword ++ right) := by
  refine ⟨verdicts_eq_filterMap_callables policy _, ?_, Declarator.isOperatorText_operatorText,
    fun text => (Declarator.isOperatorText_operatorText text).operatorText_eq,
    fun _ _ => Declarator.operatorText_keyword_append_eq_iff⟩
  refine (forall₂_origins source name root).imp fun entity origin hsame => ?_
  refine ⟨hsame, fun operator hends => ?_⟩
  have hname := name_of_endsInOperator hsame hends
  refine ⟨hname, fun hcallable => ownVerdict?_of_beginsWithOperator policy hcallable ?_⟩
  rw [hname]
  exact beginsWithOperator_operatorNameOf operator

/-- `bool Box::operator  == (int);` -/
def equalsSource : ByteArray := "bool Box::operator  == (int);".toUTF8

def equalsOperator : SyntaxNode :=
  { SyntaxNode.blank with
    kind := .operatorName, field := some .name, start := 10, stop := 22 }

def equalsName : SyntaxNode :=
  { SyntaxNode.blank with
    kind := .qualifiedIdentifier
    field := some .declarator
    start := 5
    stop := 22
    children :=
      [{ SyntaxNode.blank with
         kind := .other "namespace_identifier", field := some .scope, start := 5, stop := 8 },
       equalsOperator] }

def equalsDeclarator : SyntaxNode :=
  { SyntaxNode.blank with
    kind := .functionDeclarator
    field := some .declarator
    start := 5
    stop := 28
    children := [equalsName] }

def equalsDeclaration : SyntaxNode :=
  { SyntaxNode.blank with
    kind := .declaration
    stop := 29
    children :=
      [{ SyntaxNode.blank with
         kind := .other "primitive_type", field := some .type, stop := 4 },
       equalsDeclarator] }

def equalsUnit : SyntaxNode :=
  { SyntaxNode.blank with stop := 29, children := [equalsDeclaration] }

theorem endsInOperator_equals : EndsInOperator equalsDeclarator equalsOperator :=
  ⟨equalsName, ⟨equalsDeclarator, .refl, rfl, rfl⟩, .underScope (by decide) rfl (.bare rfl)⟩

def equalsDeclared : DeclaredName where
  name := "operator=="
  form := .plain
  qualifier := some "Box"
  isQualified := true

theorem functionName?_equals :
    functionName? equalsSource equalsDeclarator = some equalsDeclared := by
  decide +kernel

def equalsEntity : Entity :=
  (callableEntity equalsDeclaration none equalsDeclared).asDeclaration

theorem lower_equals : lower equalsSource equalsDeclaration none = [equalsEntity] := by
  rw [lower_eq]
  change declaredCallables equalsSource equalsDeclaration none = _
  rw [declaredCallables]
  change ([equalsDeclarator].filterMap (functionName? equalsSource)).map _ = _
  rw [List.filterMap_cons_some functionName?_equals]
  rfl

theorem callables_equals :
    ((preorder (fileEntity equalsSource "box.cpp" equalsUnit)).filter fun entity =>
      entity.callable?.isSome) = [equalsEntity] := by
  have hchildren : (fileEntity equalsSource "box.cpp" equalsUnit).children = [equalsEntity] := by
    change lower equalsSource equalsDeclaration none ++ [] = _
    rw [lower_equals]
    rfl
  have hpreorder : preorder (fileEntity equalsSource "box.cpp" equalsUnit) =
      [fileEntity equalsSource "box.cpp" equalsUnit, equalsEntity] := by
    rw [OrderedTree.preorder_eq]
    change _ :: (fileEntity equalsSource "box.cpp" equalsUnit).children.flatMap preorder = _
    rw [hchildren, List.flatMap_singleton, OrderedTree.preorder_eq]
    rfl
  rw [hpreorder]
  rfl

theorem origins_equals :
    ((origins equalsUnit).filter fun origin => (originOf? equalsSource origin).isSome) =
      [⟨equalsDeclaration, equalsDeclarator⟩] := by
  have hvisited : visited equalsUnit = [equalsDeclaration] := by
    change visitedFrom equalsDeclaration ++ [] = _
    rw [visitedFrom_eq]
    rfl
  have horigins : origins equalsUnit = [⟨equalsDeclaration, equalsDeclarator⟩] := by
    rw [origins, hvisited]
    rfl
  rw [horigins, List.filter_cons, originOf?, functionName?_equals]
  rfl

theorem namedForOperator_equals :
    NamedForOperator equalsSource "box.cpp" equalsUnit equalsOperator equalsEntity := by
  refine @NamedForOperator.callable _ _ _ _ _ ⟨equalsDeclaration, equalsDeclarator⟩ ?_
    endsInOperator_equals
  rw [callables_equals, origins_equals]
  exact List.mem_cons_self

theorem operators_pass_equals :
    equalsEntity ∈ preorder (fileEntity equalsSource "box.cpp" equalsUnit) ∧
      equalsEntity.kind.isCallable = true ∧
      Policy.standard.ownVerdict? equalsEntity =
        some
          { name := "operator=="
            kind := .memberFunction
            line := 1
            compliant := true
            rule := some .operatorOverload } := by
  have hmem : equalsEntity ∈ (preorder (fileEntity equalsSource "box.cpp" equalsUnit)).filter
      fun entity => entity.callable?.isSome := by
    rw [callables_equals]
    exact List.mem_cons_self
  obtain ⟨-, hpairs, -⟩ := operators_pass equalsSource Policy.standard "box.cpp" equalsUnit
  rw [callables_equals, origins_equals] at hpairs
  obtain ⟨⟨-, hoperator⟩, -⟩ := List.forall₂_cons.1 hpairs
  obtain ⟨-, hverdict⟩ := hoperator equalsOperator endsInOperator_equals
  exact ⟨(List.mem_filter.1 hmem).1, rfl, hverdict rfl⟩

end Lowering

end NamingCheck
