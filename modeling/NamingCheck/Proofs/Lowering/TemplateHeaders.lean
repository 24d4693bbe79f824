import NamingCheck.Proofs.Lowering.Callables
import NamingCheck.Proofs.Verdict.Forest

/-!
# What template headers change

A stack of headers is lowered to one wrapper around the entities of what it stands before. These
are marked if there are more headers than templated scopes in the declared name, and a mark silences
an entity itself but nothing below it.
-/

namespace NamingCheck

namespace Declarator

/-- The qualified names that stand one inside the other, the outermost first. -/
def nestedNames (node : SyntaxNode) : List SyntaxNode :=
  node ::
    match _hname : node.child? .name with
    | none => []
    | some name => if name.kind.isQualified then nestedNames name else []
termination_by node.size
decreasing_by exact SyntaxNode.size_lt_of_child? ‹_›

theorem nestedNames_of_child? {name node : SyntaxNode} (hname : node.child? .name = some name) :
    nestedNames node = node :: if name.kind.isQualified then nestedNames name else [] := by
  rw [nestedNames]
  congr 1
  split
  · next hnone => rw [hnone] at hname; cases hname
  · next hother =>
      rw [hname, Option.some.injEq] at hother
      rw [hother]

theorem countTemplatedScopes_eq_countP (node : SyntaxNode) :
    countTemplatedScopes node = (nestedNames node).countP hasTemplatedScope := by
  rw [countTemplatedScopes_eq, nestedNames, List.countP_cons, Nat.add_comm]
  congr 1
  split
  · next hname => rw [hname]; rfl
  · next name hname =>
      rw [hname, Option.filter_some]
      by_cases hqualified : name.kind.isQualified = true
      · simp only [hqualified, if_true, Option.map_some, Option.getD_some]
        exact countTemplatedScopes_eq_countP name
      · simp only [hqualified]
        rfl
termination_by node.size
decreasing_by exact SyntaxNode.size_lt_of_child? ‹_›

end Declarator

namespace Lowering

open Declarator (hasTemplatedScope nestedNames qualifiedName? spentHeaders)
open EntityTree (OwesVerdict)

/-- What a template header may stand before. -/
def templatable : List SyntaxKind := introducing ++ definable

/-- The templated scopes of the name that the first declarator of a node declares. -/
def templatedScopes (node : SyntaxNode) : Nat :=
  if node.kind ∈ introducing then
    match (node.child? .declarator).bind qualifiedName? with
    | none => 0
    | some qualified => (nestedNames qualified).countP hasTemplatedScope
  else 0

/-- The node is a template header for `inner`. What else it holds, such as the list of parameters,
declares nothing. -/
structure Heads (node inner : SyntaxNode) : Prop where
  kind_eq : node.kind = .templateDeclaration
  among : Among [inner] node.namedChildren

/-- So many headers, one inside the other, stand before the last node. -/
inductive HeaderStack : Nat → SyntaxNode → SyntaxNode → Prop where
  | last {node inner : SyntaxNode}
      (hheads : Heads node inner)
      (hkind : inner.kind ∈ templatable) :
      HeaderStack 1 node inner
  | nest {count : Nat} {node nested inner : SyntaxNode}
      (hheads : Heads node nested)
      (hstack : HeaderStack count nested inner) :
      HeaderStack (count + 1) node inner

/-- The types that a node defines: itself, or the type of what it declares. -/
def definedTypes (node : SyntaxNode) : List SyntaxNode :=
  if node.kind ∈ definable then [node]
  else if node.kind = .declaration ∨ node.kind = .fieldDeclaration then node.definedType?.toList
  else []

variable (source : ByteArray)

/-- The callables that a node itself declares. -/
def ownCallables (node : SyntaxNode) (owner : Option String) : List Entity :=
  match node.kind with
  | .functionDefinition => (definedCallable? source node owner).toList
  | .declaration | .fieldDeclaration => declaredCallables source node owner
  | _ => []

/-- The verdicts on the members in the body of a class. -/
def memberVerdicts (policy : Policy) (cls : SyntaxNode) : List Verdict :=
  policy.forestVerdicts (cls.memberNodes.flatMap (lower source · (some (tagName source cls))))

variable {source} {count : Nat} {node inner : SyntaxNode}

theorem spentHeaders_eq_templatedScopes (node : SyntaxNode) :
    spentHeaders node = templatedScopes node := by
  have hdeclared :
      (((node.child? .declarator).bind qualifiedName?).map
          Declarator.countTemplatedScopes).getD 0 =
        match (node.child? .declarator).bind qualifiedName? with
        | none => 0
        | some qualified => (nestedNames qualified).countP hasTemplatedScope := by
    cases (node.child? .declarator).bind qualifiedName? with
    | none => rfl
    | some qualified => exact Declarator.countTemplatedScopes_eq_countP qualified
  rw [spentHeaders, templatedScopes]
  split
  case h_4 hfunction hdeclaration hfield =>
    rw [if_neg]
    simp only [introducing, List.mem_cons, List.not_mem_nil, or_false]
    rintro (hkind | hkind | hkind)
    · exact hfunction hkind
    · exact hdeclaration hkind
    · exact hfield hkind
  all_goals
    next hkind =>
      rw [if_pos (by rw [hkind]; decide)]
      exact hdeclared

/-! ### The stack -/

theorem Heads.find?_eq_none (hheads : Heads node inner)
    (hkind : inner.kind ≠ .templateDeclaration) :
    node.namedChildren.find? (·.kind == .templateDeclaration) = none := by
  obtain ⟨before, after, hnamed, hidle⟩ := hheads.among
  rw [List.find?_eq_none]
  intro child hchild hheader
  rw [beq_iff_eq] at hheader
  rw [hnamed, List.append_assoc, List.singleton_append, List.mem_append, List.mem_cons] at hchild
  have hentered : child.kind ∈ entered := by
    rw [hheader]
    decide
  rcases hchild with hbefore | rfl | hafter
  · exact hidle child (List.mem_append_left _ hbefore) hentered
  · exact hkind hheader
  · exact hidle child (List.mem_append_right _ hafter) hentered

theorem Heads.find?_eq_some (hheads : Heads node inner)
    (hkind : inner.kind = .templateDeclaration) :
    node.namedChildren.find? (·.kind == .templateDeclaration) = some inner := by
  obtain ⟨before, after, hnamed, hidle⟩ := hheads.among
  have hnone : before.find? (·.kind == .templateDeclaration) = none := by
    rw [List.find?_eq_none]
    intro child hchild hheader
    rw [beq_iff_eq] at hheader
    refine hidle child (List.mem_append_left _ hchild) ?_
    rw [hheader]
    decide
  rw [hnamed, List.append_assoc, List.find?_append, hnone, Option.none_or]
  simp only [List.singleton_append, List.find?_cons, hkind, beq_self_eq_true]

theorem HeaderStack.kind_eq (hstack : HeaderStack count node inner) :
    node.kind = .templateDeclaration := by
  cases hstack with
  | last hheads _ => exact hheads.kind_eq
  | nest hheads _ => exact hheads.kind_eq

theorem HeaderStack.kind_mem (hstack : HeaderStack count node inner) :
    inner.kind ∈ templatable := by
  induction hstack with
  | last _ hkind => exact hkind
  | nest _ _ ih => exact ih

theorem HeaderStack.templateHeaders_eq (hstack : HeaderStack count node inner) :
    ∃ last, templateHeaders node = (count, last) ∧ Heads last inner := by
  induction hstack with
  | @last node inner hheads hkind =>
      have hother : ∀ kind ∈ templatable, kind ≠ .templateDeclaration := by decide
      refine ⟨node, ?_, hheads⟩
      rw [Lowering.templateHeaders_eq, hheads.find?_eq_none (hother _ hkind)]
  | nest hheads hstack ih =>
      obtain ⟨last, hlast, hinner⟩ := ih
      refine ⟨last, ?_, hinner⟩
      rw [Lowering.templateHeaders_eq, hheads.find?_eq_some hstack.kind_eq]
      simp only [hlast]

/-- Of all that the last header holds, only what it stands before adds entities. -/
theorem HeaderStack.lower_eq_markTemplated (hstack : HeaderStack count node inner)
    (owner : Option String) :
    lower source node owner =
      [Entity.around .template (markTemplated count inner (lower source inner owner))
        node.line] := by
  obtain ⟨last, hlast, hheads⟩ := hstack.templateHeaders_eq
  have hnothing (child : SyntaxNode) (hchild : child.kind ∉ entered) :
      markTemplated count child (lower source child owner) = [] := by
    rw [lower_eq_nil source hchild, markTemplated]
    split_ifs <;> rfl
  have hother : ∀ kind ∈ templatable, (kind != .templateParameterList) = true := by decide
  have hkept : [inner].filter (·.kind != .templateParameterList) = [inner] :=
    List.filter_cons_of_pos (hother _ hstack.kind_mem)
  have hcontents := hheads.among.filter (·.kind != .templateParameterList)
  rw [hkept] at hcontents
  rw [lower_eq, hstack.kind_eq]
  simp only [templateContents, hlast, hcontents.flatMap hnothing, List.flatMap_singleton]

/-! ### The verdicts -/

theorem verdicts_of_callable?_eq_none (policy : Policy) {entity : Entity}
    (hnone : entity.callable? = none) :
    policy.verdicts entity = policy.forestVerdicts entity.children := by
  have hform : entity.kind.form? = none := Option.map_eq_none_iff.1 hnone
  apply policy.verdicts_of_isCallable_eq_false
  change entity.kind.isCallable = false
  revert hform
  cases entity.kind <;> simp [Entity.Kind.form?, Entity.Kind.isCallable]

theorem verdicts_asTemplated (policy : Policy) (entity : Entity) :
    policy.verdicts entity.asTemplated = policy.forestVerdicts entity.children := by
  refine policy.verdicts_of_not_owesVerdict ?_
  rintro ⟨-, htemplated, -⟩
  cases htemplated

/-- Marking silences the callables of a list and lets all below its other entities speak. -/
theorem forestVerdicts_map_asTemplated (policy : Policy) {entities : List Entity}
    (hleaves : ∀ entity ∈ entities, entity.callable? = none ∨ entity.children = []) :
    policy.forestVerdicts (entities.map Entity.asTemplated) =
      policy.forestVerdicts (entities.filter (·.callable?.isNone)) := by
  induction entities with
  | nil => rfl
  | cons first rest ih =>
      have hrest := ih fun entity hentity => hleaves entity (List.mem_cons_of_mem first hentity)
      rw [List.map_cons, policy.forestVerdicts_cons, hrest, verdicts_asTemplated, List.filter_cons]
      cases hcallable : first.callable? with
      | none =>
          rw [Option.isNone_none, if_pos rfl, policy.forestVerdicts_cons,
            verdicts_of_callable?_eq_none policy hcallable]
      | some callable =>
          have hleaf : first.children = [] :=
            (hleaves first List.mem_cons_self).resolve_left (by rw [hcallable]; exact nofun)
          rw [Option.isNone_some, hleaf, Policy.forestVerdicts_nil, List.nil_append]
          rfl

theorem callable?_classEntity (cls : SyntaxNode) (members : List Entity) :
    (classEntity source cls members).callable? = none := by
  rw [classEntity]
  split_ifs <;> rfl

theorem callable?_enumEntity (node : SyntaxNode) : (enumEntity source node).callable? = none := by
  rw [enumEntity]
  split_ifs <;> rfl

theorem callable?_of_mem_ownCallables {owner : Option String} {entity : Entity}
    (hmem : entity ∈ ownCallables source node owner) :
    entity.callable? ≠ none ∧ entity.children = [] := by
  have hdeclared (hmem : entity ∈ declaredCallables source node owner) :
      entity.callable? ≠ none ∧ entity.children = [] := by
    obtain ⟨declared, -, rfl⟩ := List.mem_map.1 hmem
    rw [callable?_callableEntity_asDeclaration]
    exact ⟨nofun, rfl⟩
  rw [ownCallables] at hmem
  split at hmem
  · obtain ⟨declared, -, rfl⟩ := Option.map_eq_some_iff.1 (Option.mem_toList.1 hmem)
    rw [callable?_callableEntity]
    exact ⟨nofun, rfl⟩
  · exact hdeclared hmem
  · exact hdeclared hmem
  · cases hmem

/-- A type is lowered to one entity, in whatever scope it stands. -/
theorem lower_definable (hkind : node.kind ∈ definable) (owner : Option String) :
    ∃ entity, lower source node owner = [entity] ∧ entity.callable? = none ∧
      ∀ policy : Policy, policy.forestVerdicts entity.children =
        ([node].filter (·.kind.isClassLike)).flatMap (memberVerdicts source policy) := by
  by_cases hclass : node.kind.isClassLike = true
  · refine ⟨_, lower_class source hclass owner, callable?_classEntity _ _, fun policy => ?_⟩
    have hself : [node].filter (·.kind.isClassLike) = [node] := by simp [hclass]
    rw [children_classEntity, hself, List.flatMap_singleton, memberVerdicts]
  · have henum : node.kind = .enumSpecifier := by
      revert hclass hkind
      cases node.kind <;> simp [SyntaxKind.isClassLike, definable]
    refine ⟨enumEntity source node, by rw [lower_eq, henum], callable?_enumEntity node, ?_⟩
    intro policy
    have hleaf : (enumEntity source node).children = [] := by
      rw [enumEntity]
      split_ifs <;> rfl
    have hnoClass : [node].filter (·.kind.isClassLike) = [] := by simp [hclass]
    rw [hleaf, hnoClass]
    rfl

theorem lower_definable_eq (hkind : node.kind ∈ definable) (left right : Option String) :
    lower source node left = lower source node right := by
  by_cases hclass : node.kind.isClassLike = true
  · rw [lower_class source hclass, lower_class source hclass]
  · have henum : node.kind = .enumSpecifier := by
      revert hclass hkind
      cases node.kind <;> simp [SyntaxKind.isClassLike, definable]
    rw [lower_eq, lower_eq, henum]

theorem kind_mem_definable_of_mem_definedTypes {type : SyntaxNode}
    (hmem : type ∈ definedTypes node) : type.kind ∈ definable := by
  rw [definedTypes] at hmem
  split_ifs at hmem with hdefinable
  · rw [List.mem_singleton.1 hmem]
    exact hdefinable
  · exact (definedType?_eq_some_iff.1 (Option.mem_toList.1 hmem)).2.1
  · cases hmem

theorem lower_templatable (hkind : node.kind ∈ templatable) (owner : Option String) :
    lower source node owner =
      (definedTypes node).flatMap (lower source · none) ++ ownCallables source node owner := by
  simp only [templatable, introducing, definable, List.cons_append, List.nil_append, List.mem_cons,
    List.not_mem_nil, or_false] at hkind
  rcases hkind with hkind | hkind | hkind | hdefinable
  · have htypes : definedTypes node = [] := by
      rw [definedTypes, if_neg (by rw [hkind]; decide), if_neg (by rw [hkind]; decide)]
    rw [lower_eq, htypes, ownCallables, hkind]
    rfl
  · have htypes : definedTypes node = node.definedType?.toList := by
      rw [definedTypes, if_neg (by rw [hkind]; decide), if_pos (Or.inl hkind)]
    rw [lower_eq, htypes, ownCallables, hkind]
  · have htypes : definedTypes node = node.definedType?.toList := by
      rw [definedTypes, if_neg (by rw [hkind]; decide), if_pos (Or.inr hkind)]
    rw [lower_eq, htypes, ownCallables, hkind]
  · have hmem : node.kind ∈ definable := by simpa [definable] using hdefinable
    have hown : ownCallables source node owner = [] := by
      rcases hdefinable with hkind | hkind | hkind | hkind <;> rw [ownCallables, hkind]
    rw [definedTypes, if_pos hmem, List.flatMap_singleton, hown, List.append_nil]
    exact lower_definable_eq hmem owner none

theorem callable?_of_mem_definedTypes {entity : Entity}
    (hmem : entity ∈ (definedTypes node).flatMap (lower source · none)) :
    entity.callable? = none := by
  obtain ⟨type, htype, hentity⟩ := List.mem_flatMap.1 hmem
  obtain ⟨only, honly, hnone, -⟩ :=
    lower_definable (kind_mem_definable_of_mem_definedTypes htype) none
  rw [honly, List.mem_singleton] at hentity
  rw [hentity]
  exact hnone

theorem filter_callable?_lower (hkind : node.kind ∈ templatable) (owner : Option String) :
    (lower source node owner).filter (·.callable?.isNone) =
      (definedTypes node).flatMap (lower source · none) := by
  have htypes : ((definedTypes node).flatMap (lower source · none)).filter (·.callable?.isNone) =
      (definedTypes node).flatMap (lower source · none) := by
    rw [List.filter_eq_self]
    intro entity hentity
    rw [callable?_of_mem_definedTypes hentity]
    rfl
  have hown : (ownCallables source node owner).filter (·.callable?.isNone) = [] := by
    rw [List.filter_eq_nil_iff]
    intro entity hentity hnone
    exact (callable?_of_mem_ownCallables hentity).1 (Option.isNone_iff_eq_none.1 hnone)
  rw [lower_templatable hkind, List.filter_append, htypes, hown, List.append_nil]

theorem forestVerdicts_definedTypes (policy : Policy) (node : SyntaxNode) :
    policy.forestVerdicts ((definedTypes node).flatMap (lower source · none)) =
      ((definedTypes node).filter (·.kind.isClassLike)).flatMap (memberVerdicts source policy) := by
  have hall : ∀ type ∈ definedTypes node, type.kind ∈ definable :=
    fun _ => kind_mem_definable_of_mem_definedTypes
  rw [policy.forestVerdicts_flatMap]
  generalize definedTypes node = types at hall ⊢
  induction types with
  | nil => rfl
  | cons first rest ih =>
      have hrest := ih fun type htype => hall type (List.mem_cons_of_mem first htype)
      obtain ⟨entity, hentity, hnone, hmembers⟩ := lower_definable (hall first List.mem_cons_self) none
      have hfirst : policy.forestVerdicts (lower source first none) =
          ([first].filter (·.kind.isClassLike)).flatMap (memberVerdicts source policy) := by
        rw [hentity, policy.forestVerdicts_singleton, verdicts_of_callable?_eq_none policy hnone]
        exact hmembers policy
      rw [List.flatMap_cons, hrest, hfirst, ← List.flatMap_append, ← List.filter_append,
        List.singleton_append]

/-- A stack of headers becomes one wrapper. With a templated scope for every header nothing else
changes; with more headers the callables that stand directly below them fall silent, and only the
members of class bodies are left. -/
theorem lower_headerStack (policy : Policy) {count : Nat} {node inner : SyntaxNode}
    (hstack : HeaderStack count node inner) (owner : Option String) :
    lower source node owner =
      [Entity.around .template
        (if count ≤ templatedScopes inner then lower source inner owner
          else (lower source inner owner).map Entity.asTemplated) node.line] ∧
    policy.forestVerdicts (lower source node owner) =
      (if count ≤ templatedScopes inner then policy.forestVerdicts (lower source inner owner)
        else policy.forestVerdicts ((lower source inner owner).filter (·.callable?.isNone))) ∧
    policy.forestVerdicts ((lower source inner owner).filter (·.callable?.isNone)) =
      ((definedTypes inner).filter (·.kind.isClassLike)).flatMap (memberVerdicts source policy) ∧
    (inner.kind ∈ definable →
      policy.forestVerdicts (lower source node owner) =
        policy.forestVerdicts (lower source inner owner)) := by
  have hkind := hstack.kind_mem
  have hlower : lower source node owner =
      [Entity.around .template
        (if count ≤ templatedScopes inner then lower source inner owner
          else (lower source inner owner).map Entity.asTemplated) node.line] := by
    rw [hstack.lower_eq_markTemplated, markTemplated, spentHeaders_eq_templatedScopes]
    by_cases hspent : count ≤ templatedScopes inner
    · rw [if_neg (Nat.not_lt.2 hspent), if_pos hspent]
    · rw [if_pos (Nat.lt_of_not_le hspent), if_neg hspent]
  have hwrapper (held : List Entity) :
      policy.forestVerdicts [Entity.around .template held node.line] =
        policy.forestVerdicts held := by
    rw [policy.forestVerdicts_singleton, verdicts_of_callable?_eq_none policy rfl]
    rfl
  have hleaves : ∀ entity ∈ lower source inner owner,
      entity.callable? = none ∨ entity.children = [] := by
    intro entity hentity
    rw [lower_templatable hkind, List.mem_append] at hentity
    rcases hentity with htypes | hown
    · exact Or.inl (callable?_of_mem_definedTypes htypes)
    · exact Or.inr (callable?_of_mem_ownCallables hown).2
  have hverdicts : policy.forestVerdicts (lower source node owner) =
      (if count ≤ templatedScopes inner then policy.forestVerdicts (lower source inner owner)
        else policy.forestVerdicts ((lower source inner owner).filter (·.callable?.isNone))) := by
    rw [hlower, hwrapper]
    split_ifs with hspent
    · rfl
    · exact forestVerdicts_map_asTemplated policy hleaves
  refine ⟨hlower, hverdicts, ?_, ?_⟩
  · rw [filter_callable?_lower hkind]
    exact forestVerdicts_definedTypes policy inner
  · intro hdefinable
    have hown : ownCallables source inner owner = [] := by
      simp only [definable, List.mem_cons, List.not_mem_nil, or_false] at hdefinable
      rcases hdefinable with hkind | hkind | hkind | hkind <;> rw [ownCallables, hkind]
    have hsame : (lower source inner owner).filter (·.callable?.isNone) =
        lower source inner owner := by
      rw [filter_callable?_lower hkind, lower_templatable hkind owner, hown, List.append_nil]
    rw [hverdicts, hsame, ite_self]

/-- `template<A> template<B> void Box<A>::put() {}` -/
def putSource : ByteArray := "template<A> template<B> void Box<A>::put() \x7b\x7d".toUTF8

def putScope : SyntaxNode :=
  { SyntaxNode.blank with
    kind := .templateType
    field := some .scope
    start := 29
    stop := 35
    children :=
      [{ SyntaxNode.blank with
         kind := .other "type_identifier", field := some .name, start := 29, stop := 32 }] }

def putName : SyntaxNode :=
  { SyntaxNode.blank with kind := .identifier, field := some .name, start := 37, stop := 40 }

def putDefinition : SyntaxNode :=
  { SyntaxNode.blank with
    kind := .functionDefinition
    start := 24
    stop := 45
    children :=
      [{ SyntaxNode.blank with
         kind := .functionDeclarator
         field := some .declarator
         start := 29
         stop := 42
         children :=
           [{ SyntaxNode.blank with
              kind := .qualifiedIdentifier
              field := some .declarator
              start := 29
              stop := 40
              children := [putScope, putName] }] }] }

def putParameters (start : Nat) : SyntaxNode :=
  { SyntaxNode.blank with kind := .templateParameterList, start := start, stop := start + 3 }

def putHeader (start : Nat) (inner : SyntaxNode) : SyntaxNode :=
  { SyntaxNode.blank with
    kind := .templateDeclaration
    start := start
    stop := 45
    children := [putParameters (start + 8), inner] }

/-- One header is spent on the templated scope; with two, the member is itself a template. -/
theorem lower_headerStack_put :
    Policy.standard.forestVerdicts (lower putSource (putHeader 12 putDefinition) none) =
      Policy.standard.forestVerdicts (lower putSource putDefinition none) ∧
    Policy.standard.forestVerdicts
      (lower putSource (putHeader 0 (putHeader 12 putDefinition)) none) = [] := by
  have hheads (start : Nat) (inner : SyntaxNode) (hnamed : inner.isNamed = true) :
      Heads (putHeader start inner) inner := by
    have hnone : SyntaxKind.templateParameterList ∉ entered := by decide
    have hinner : [inner].filter (·.isNamed) = [inner] := List.filter_cons_of_pos hnamed
    refine ⟨rfl, [putParameters (start + 8)], [], congrArg (putParameters _ :: ·) hinner, ?_⟩
    intro child hchild
    rw [List.append_nil] at hchild
    rw [List.mem_singleton.1 hchild]
    exact hnone
  have hone : HeaderStack 1 (putHeader 12 putDefinition) putDefinition :=
    .last (hheads 12 putDefinition rfl) (by decide)
  have htwo : HeaderStack 2 (putHeader 0 (putHeader 12 putDefinition)) putDefinition :=
    .nest (hheads 0 (putHeader 12 putDefinition) rfl) hone
  have hscopes : templatedScopes putDefinition = 1 := by decide +kernel
  obtain ⟨-, hspent, -, -⟩ :=
    @lower_headerStack putSource Policy.standard _ _ _ hone none
  obtain ⟨-, hleft, hmembers, -⟩ :=
    @lower_headerStack putSource Policy.standard _ _ _ htwo none
  rw [hscopes] at hspent hleft
  refine ⟨hspent, ?_⟩
  rw [if_neg (by decide), hmembers] at hleft
  exact hleft

end Lowering

end NamingCheck
