import Mathlib.Tactic.FinCases
import NamingCheck.Proofs.Declarator.FunctionLayer
import NamingCheck.Proofs.Lowering.Callables
import NamingCheck.Proofs.SyntaxTree.Related

/-!
# What the lowering reads off a node

A change below a node shows only in what the lowering reads off it: the entities, and for a part of
a declarator, a scope or a template header, its names and counts. Nodes that agree in all of this
are alike, and so are nodes with alike children, so nothing of a change shows above the place where
it stops showing. It is enough that the lookups among the children give alike nodes.
-/

namespace NamingCheck

open List (Forall₂)

namespace Lowering

open Declarator (countTemplatedScopes functionName? hasTemplatedScope qualifiedName? qualifierOf
  spelledName? spentHeaders wrapping)
open SyntaxNode (SameShell)

variable (source : ByteArray)

/-- Nothing that the lowering reads off a node tells the two apart. -/
structure Alike (left right : SyntaxNode) : Prop where
  sameShell : SameShell left right
  sameEntities : ∀ owner, lower source left owner = lower source right owner
  sameSpelling : spelledName? source left = spelledName? source right
  sameFunction : functionName? source left = functionName? source right
  sameScopes : left.kind.isQualified = true →
    countTemplatedScopes left = countTemplatedScopes right
  sameQualified : (qualifiedName? left).map countTemplatedScopes =
    (qualifiedName? right).map countTemplatedScopes
  sameSpent : spentHeaders left = spentHeaders right
  sameTag : tagOf source left = tagOf source right
  sameQualifier : qualifierOf source left = qualifierOf source right
  sameBody : left.kind ∈ definable → (left.child? .body).isSome = (right.child? .body).isSome
  sameHeaders : left.kind = .templateDeclaration →
    (templateHeaders left).1 = (templateHeaders right).1
  sameContents : left.kind = .templateDeclaration → ∀ (layers : Nat) (owner : Option String),
    ((templateContents left).flatMap fun child =>
        markTemplated layers child (lower source child owner)) =
      (templateContents right).flatMap fun child =>
        markTemplated layers child (lower source child owner)

/-- The two are only read for what their children are lowered to, and this is the same. -/
structure AlikeInside (left right : SyntaxNode) : Prop where
  sameShell : SameShell left right
  sameMembers : ∀ owner, left.namedChildren.flatMap (lower source · owner) =
    right.namedChildren.flatMap (lower source · owner)

variable {source} {left right : SyntaxNode}

theorem Alike.refl (node : SyntaxNode) : Alike source node node :=
  ⟨SameShell.refl node, fun _ => rfl, rfl, rfl, fun _ => rfl, rfl, rfl, rfl, rfl, fun _ => rfl,
    fun _ => rfl, fun _ _ _ => rfl⟩

theorem AlikeInside.refl (node : SyntaxNode) : AlikeInside source node node :=
  ⟨SameShell.refl node, fun _ => rfl⟩

/-! ### Nodes that declare no name of their own -/

/-- The readings of a container, its entities apart. -/
theorem readings_of_container (source : ByteArray) {node : SyntaxNode}
    (hkind : node.kind ∈ passedThrough ++ withMembers) :
    spelledName? source node = none ∧ functionName? source node = none ∧
      qualifiedName? node = none ∧ spentHeaders node = 0 ∧
      tagOf source node = node.text source ∧ qualifierOf source node = node.text source ∧
      node.kind.isQualified = false ∧ node.kind ≠ .templateDeclaration := by
  rw [Declarator.spelledName?_eq, Declarator.functionName?_eq, Declarator.qualifiedName?_eq,
    spentHeaders, tagOf_eq, qualifierOf]
  generalize node.kind = kind at hkind ⊢
  fin_cases hkind <;> exact ⟨rfl, rfl, rfl, rfl, rfl, rfl, by decide, by decide⟩

theorem Alike.of_container (hshell : SameShell left right)
    (hkind : left.kind ∈ passedThrough ++ withMembers)
    (hbody : left.kind ∈ definable → (left.child? .body).isSome = (right.child? .body).isSome)
    (hentities : ∀ owner, lower source left owner = lower source right owner) :
    Alike source left right := by
  obtain ⟨hspelled, hfunction, hqualified, hspent, htag, hqualifier, hscope, htemplate⟩ :=
    readings_of_container source hkind
  obtain ⟨hspelled', hfunction', hqualified', hspent', htag', hqualifier', -, -⟩ :=
    readings_of_container source (hshell.kind_eq ▸ hkind)
  exact
    { sameShell := hshell
      sameEntities := hentities
      sameSpelling := by rw [hspelled, hspelled']
      sameFunction := by rw [hfunction, hfunction']
      sameScopes := fun hisQualified => by rw [hscope] at hisQualified; cases hisQualified
      sameQualified := by rw [hqualified, hqualified']
      sameSpent := by rw [hspent, hspent']
      sameTag := by rw [htag, htag', hshell.text_eq]
      sameQualifier := by rw [hqualifier, hqualifier', hshell.text_eq]
      sameBody := hbody
      sameHeaders := fun hheader => absurd hheader htemplate
      sameContents := fun hheader => absurd hheader htemplate }

theorem Alike.of_passedThrough (hinside : AlikeInside source left right)
    (hkind : left.kind ∈ passedThrough) : Alike source left right := by
  have hother : ∀ kind ∈ passedThrough, kind ∉ definable := by decide
  refine .of_container hinside.sameShell (List.mem_append_left _ hkind)
    (fun hdefinable => absurd hdefinable (hother _ hkind)) fun owner => ?_
  rw [lower_eq, lower_eq, ← hinside.sameShell.kind_eq, hinside.sameShell.line_eq,
    hinside.sameMembers owner, hinside.sameMembers none]
  generalize left.kind = kind at hkind ⊢
  fin_cases hkind <;> rfl

/-- The children of a class or namespace: its body is only read for the members. -/
def AlikePart (source : ByteArray) (left right : SyntaxNode) : Prop :=
  if left.field = some .body then AlikeInside source left right else Alike source left right

theorem AlikePart.sameShell (hpart : AlikePart source left right) : SameShell left right := by
  rw [AlikePart] at hpart
  split_ifs at hpart
  · exact hpart.sameShell
  · exact hpart.sameShell

/-- Of a class or namespace only the name and the members of the body are read. -/
theorem Alike.of_name_of_body (hshell : SameShell left right) (hkind : left.kind ∈ withMembers)
    (hname : Option.Rel (Alike source) (left.child? .name) (right.child? .name))
    (hbody : Option.Rel (AlikeInside source) (left.child? .body) (right.child? .body)) :
    Alike source left right := by
  have hmembers (owner : Option String) :
      left.memberNodes.flatMap (lower source · owner) =
        right.memberNodes.flatMap (lower source · owner) := by
    rw [SyntaxNode.memberNodes, SyntaxNode.memberNodes]
    rcases SyntaxNode.none_or_some_of_rel hbody with
      ⟨hleft, hright⟩ | ⟨first, second, hleft, hright, hinside⟩
    · rw [hleft, hright]
    · rw [hleft, hright]
      exact hinside.sameMembers owner
  have hdefined : (left.child? .body).isSome = (right.child? .body).isSome :=
    SyntaxNode.isSome_eq_of_rel hbody
  have htag : tagName source left = tagName source right := by
    rw [tagName, tagName, SyntaxNode.map_eq_of_rel hname fun _ _ hsame => hsame.sameTag]
  have hnames : namespaceNames source left = namespaceNames source right := by
    rw [namespaceNames, namespaceNames]
    rcases SyntaxNode.none_or_some_of_rel hname with
      ⟨hleft, hright⟩ | ⟨first, second, hleft, hright, hsame⟩
    · rw [hleft, hright]
    · rw [hleft, hright]
      dsimp only
      rw [hsame.sameShell.chars_eq]
  refine .of_container hshell (List.mem_append_right _ hkind) (fun _ => hdefined) fun owner => ?_
  rw [lower_eq, lower_eq, ← hshell.kind_eq, hshell.line_eq, hnames, hmembers none, htag,
    hmembers (some _), classEntity, classEntity, htag, hdefined, hshell.line_eq]
  generalize left.kind = kind at hkind ⊢
  fin_cases hkind <;> rfl

theorem Alike.of_members (hshell : SameShell left right) (hkind : left.kind ∈ withMembers)
    (hchildren : Forall₂ (AlikePart source) left.children right.children) :
    Alike source left right := by
  have hrelated (field : SyntaxField) :
      Option.Rel (AlikePart source) (left.child? field) (right.child? field) :=
    SyntaxNode.child?_rel (fun _ _ => AlikePart.sameShell) hchildren field
  refine .of_name_of_body hshell hkind ?_ ?_
  · rcases SyntaxNode.none_or_some_of_rel (hrelated .name) with
      ⟨hleft, hright⟩ | ⟨first, second, hleft, hright, hmember⟩
    · rw [hleft, hright]
      exact .none
    · rw [AlikePart, if_neg (by rw [SyntaxNode.field_eq_of_child? hleft]; decide)] at hmember
      rw [hleft, hright]
      exact .some hmember
  · rcases SyntaxNode.none_or_some_of_rel (hrelated .body) with
      ⟨hleft, hright⟩ | ⟨first, second, hleft, hright, hmember⟩
    · rw [hleft, hright]
      exact .none
    · rw [AlikePart, if_pos (SyntaxNode.field_eq_of_child? hleft)] at hmember
      rw [hleft, hright]
      exact .some hmember

/-! ### All other nodes -/

theorem flatMap_filter_entered {α : Type} {f : SyntaxNode → List α}
    (hidle : ∀ child, child.kind ∉ entered → f child = []) (nodes : List SyntaxNode) :
    (nodes.filter (·.kind ∈ entered)).flatMap f = nodes.flatMap f := by
  induction nodes with
  | nil => rfl
  | cons first rest ih =>
      by_cases hfirst : first.kind ∈ entered
      · rw [List.filter_cons_of_pos (by simpa using hfirst), List.flatMap_cons, List.flatMap_cons,
          ih]
      · rw [List.filter_cons_of_neg (by simpa using hfirst), List.flatMap_cons, hidle first hfirst,
          List.nil_append, ih]

theorem find?_filter_entered {p : SyntaxNode → Bool}
    (hentered : ∀ node, p node = true → node.kind ∈ entered) (nodes : List SyntaxNode) :
    (nodes.filter (·.kind ∈ entered)).find? p = nodes.find? p := by
  rw [List.find?_filter]
  congr 1
  funext node
  cases hnode : p node with
  | true => simp [hentered node hnode]
  | false => simp

/-- Whatever is looked up among the children of the two nodes is alike. Children that are not
entered are passed over, so one of the nodes may have more of them. -/
structure AlikeLookups (source : ByteArray) (left right : SyntaxNode) : Prop where
  child : ∀ field, Option.Rel (Alike source) (left.child? field) (right.child? field)
  inField : ∀ field, Forall₂ (Alike source) (left.childrenIn field) (right.childrenIn field)
  wrapped : left.kind ∈ wrapping → Option.Rel (Alike source) left.wrapped? right.wrapped?
  enteredChildren : Forall₂ (Alike source) (left.namedChildren.filter (·.kind ∈ entered))
    (right.namedChildren.filter (·.kind ∈ entered))

theorem AlikeLookups.of_children
    (hchildren : Forall₂ (Alike source) left.children right.children) :
    AlikeLookups source left right where
  child := SyntaxNode.child?_rel (fun _ _ => Alike.sameShell) hchildren
  inField := SyntaxNode.childrenIn_rel (fun _ _ => Alike.sameShell) hchildren
  wrapped _ := SyntaxNode.wrapped?_rel (fun _ _ => Alike.sameShell) hchildren
  enteredChildren :=
    SyntaxNode.filter_rel (SyntaxNode.namedChildren_rel (fun _ _ => Alike.sameShell) hchildren)
      fun _ _ hsame => by rw [hsame.sameShell.kind_eq]

section Congruence

variable (hshell : SameShell left right) (hlookups : AlikeLookups source left right)
include hlookups

theorem child?_isSome_eq (field : SyntaxField) :
    (left.child? field).isSome = (right.child? field).isSome :=
  SyntaxNode.isSome_eq_of_rel (hlookups.child field)

theorem child?_map_eq {β : Type} {g : SyntaxNode → β} (field : SyntaxField)
    (hg : ∀ left right, Alike source left right → g left = g right) :
    (left.child? field).map g = (right.child? field).map g :=
  SyntaxNode.map_eq_of_rel (hlookups.child field) hg

theorem child?_bind_eq {β : Type} {g : SyntaxNode → Option β} (field : SyntaxField)
    (hg : ∀ left right, Alike source left right → g left = g right) :
    (left.child? field).bind g = (right.child? field).bind g :=
  SyntaxNode.bind_eq_of_rel (hlookups.child field) hg

theorem namedChildren_flatMap_eq (owner : Option String) :
    left.namedChildren.flatMap (lower source · owner) =
      right.namedChildren.flatMap (lower source · owner) := by
  have hidle (child : SyntaxNode) (hchild : child.kind ∉ entered) :
      lower source child owner = [] := lower_eq_nil source hchild owner
  rw [← flatMap_filter_entered hidle, ← flatMap_filter_entered hidle right.namedChildren]
  exact SyntaxNode.flatMap_eq_of_forall₂ hlookups.enteredChildren
    fun _ _ hsame => hsame.sameEntities owner

theorem countTemplatedScopes_eq_of_alike :
    countTemplatedScopes left = countTemplatedScopes right := by
  have hscope : hasTemplatedScope left = hasTemplatedScope right := by
    rw [hasTemplatedScope, hasTemplatedScope]
    rcases SyntaxNode.none_or_some_of_rel (hlookups.child .scope) with
      ⟨hleft, hright⟩ | ⟨first, second, hleft, hright, hsame⟩
    · rw [hleft, hright]
    · rw [hleft, hright, Option.any_some, Option.any_some, hsame.sameShell.kind_eq]
  have hname : ((left.child? .name).filter (·.kind.isQualified)).map countTemplatedScopes =
      ((right.child? .name).filter (·.kind.isQualified)).map countTemplatedScopes := by
    rcases SyntaxNode.none_or_some_of_rel (hlookups.child .name) with
      ⟨hleft, hright⟩ | ⟨first, second, hleft, hright, hsame⟩
    · rw [hleft, hright]
    · rw [hleft, hright, Option.filter_some, Option.filter_some, ← hsame.sameShell.kind_eq]
      by_cases hqualified : first.kind.isQualified = true
      · rw [if_pos hqualified, if_pos hqualified, Option.map_some, Option.map_some,
          hsame.sameScopes hqualified]
      · rw [if_neg hqualified, if_neg hqualified]
  rw [Declarator.countTemplatedScopes_eq, Declarator.countTemplatedScopes_eq right, hscope, hname]

theorem spentHeaders_eq_of_alike (hkind : left.kind = right.kind) :
    spentHeaders left = spentHeaders right := by
  have hdeclarator :
      ((left.child? .declarator).bind qualifiedName?).map countTemplatedScopes =
        ((right.child? .declarator).bind qualifiedName?).map countTemplatedScopes := by
    rw [Option.map_bind, Option.map_bind]
    exact child?_bind_eq hlookups .declarator fun _ _ hsame => hsame.sameQualified
  rw [spentHeaders, spentHeaders, hkind, hdeclarator]

theorem definedType?_flatMap_eq :
    left.definedType?.toList.flatMap (lower source · none) =
      right.definedType?.toList.flatMap (lower source · none) := by
  rw [SyntaxNode.definedType?, SyntaxNode.definedType?]
  rcases SyntaxNode.none_or_some_of_rel (hlookups.child .type) with
    ⟨hleft, hright⟩ | ⟨first, second, hleft, hright, hsame⟩
  · rw [hleft, hright]
  · rw [hleft, hright, Option.filter_some, Option.filter_some, ← hsame.sameShell.kind_eq]
    by_cases hdefinable : first.kind ∈ definable
    · rw [← hsame.sameBody hdefinable]
      split_ifs
      · rw [Option.toList_some, Option.toList_some, List.flatMap_singleton, List.flatMap_singleton,
          hsame.sameEntities]
      · rfl
    · have hfalse : (first.kind.isClassLike || first.kind == .enumSpecifier) = false :=
        Bool.eq_false_iff.2 fun htrue => hdefinable (isDefinable_iff.1 htrue)
      rw [hfalse, Bool.and_false, Bool.and_false]
      rfl

theorem templateHeaders_alike :
    (templateHeaders left).1 = (templateHeaders right).1 ∧
    ∀ (layers : Nat) (owner : Option String),
      ((templateContents left).flatMap fun child =>
          markTemplated layers child (lower source child owner)) =
        (templateContents right).flatMap fun child =>
          markTemplated layers child (lower source child owner) := by
  have hheader (node : SyntaxNode) (hnode : (node.kind == .templateDeclaration) = true) :
      node.kind ∈ entered := by
    rw [beq_iff_eq.1 hnode]
    decide
  have hnested := SyntaxNode.find?_rel (p := (·.kind == .templateDeclaration))
    hlookups.enteredChildren fun _ _ hsame => by rw [hsame.sameShell.kind_eq]
  rw [find?_filter_entered hheader, find?_filter_entered hheader] at hnested
  rcases SyntaxNode.none_or_some_of_rel hnested with
    ⟨hnone, hnone'⟩ | ⟨first, second, hfirst, hsecond, hsame⟩
  · simp only [templateContents, templateHeaders_eq left, templateHeaders_eq right, hnone, hnone']
    refine ⟨trivial, fun layers owner => ?_⟩
    have hidle (child : SyntaxNode) (hchild : child.kind ∉ entered) :
        markTemplated layers child (lower source child owner) = [] := by
      rw [lower_eq_nil source hchild, markTemplated]
      split_ifs <;> rfl
    have hcontents := SyntaxNode.filter_rel (p := (·.kind != .templateParameterList))
      hlookups.enteredChildren fun _ _ hsame => by rw [hsame.sameShell.kind_eq]
    rw [← flatMap_filter_entered hidle, ← flatMap_filter_entered hidle (right.namedChildren.filter _),
      List.filter_comm, List.filter_comm (l := right.namedChildren)]
    refine SyntaxNode.flatMap_eq_of_forall₂ hcontents fun _ _ hsame => ?_
    rw [markTemplated, markTemplated, hsame.sameSpent, hsame.sameEntities]
  · have hkind : first.kind = .templateDeclaration := by
      simpa using List.find?_some hfirst
    simp only [templateContents, templateHeaders_eq left, templateHeaders_eq right, hfirst,
      hsecond, hsame.sameHeaders hkind, true_and]
    exact hsame.sameContents hkind

include hshell

theorem spelledName?_eq_of_alike : spelledName? source left = spelledName? source right := by
  rw [Declarator.spelledName?_eq, Declarator.spelledName?_eq source right, Declarator.conversionOf,
    Declarator.conversionOf, hshell.kind_eq, hshell.text_eq, hshell.chars_eq,
    child?_bind_eq hlookups .name fun _ _ hsame => hsame.sameSpelling,
    child?_map_eq hlookups .scope fun _ _ hsame => hsame.sameQualifier]

theorem functionName?_eq_of_alike : functionName? source left = functionName? source right := by
  have hinner : (left.child? .declarator).bind (fun inner =>
        (spelledName? source inner).or (functionName? source inner)) =
      (right.child? .declarator).bind fun inner =>
        (spelledName? source inner).or (functionName? source inner) :=
    child?_bind_eq hlookups .declarator fun _ _ hsame => by
      rw [hsame.sameSpelling, hsame.sameFunction]
  have hwrapped (hkind : left.kind ∈ wrapping) :
      left.wrapped?.bind (functionName? source) = right.wrapped?.bind (functionName? source) :=
    SyntaxNode.bind_eq_of_rel (hlookups.wrapped hkind) fun _ _ hsame => hsame.sameFunction
  rw [Declarator.functionName?_eq, Declarator.functionName?_eq source right, Declarator.conversionOf,
    Declarator.conversionOf, ← hshell.kind_eq, hshell.chars_eq, hinner,
    spelledName?_eq_of_alike hshell hlookups]
  cases hkind : left.kind
  case pointerDeclarator | referenceDeclarator | attributedDeclarator | parenthesizedDeclarator =>
    exact hwrapped (by rw [hkind]; decide)
  all_goals rfl

theorem qualifiedName?_map_eq_of_alike :
    (qualifiedName? left).map countTemplatedScopes =
      (qualifiedName? right).map countTemplatedScopes := by
  have hinner := child?_bind_eq hlookups .declarator fun _ _ hsame => hsame.sameQualified
  have hwrapped (hkind : left.kind ∈ wrapping) :
      left.wrapped?.bind (fun inner => (qualifiedName? inner).map countTemplatedScopes) =
        right.wrapped?.bind fun inner => (qualifiedName? inner).map countTemplatedScopes :=
    SyntaxNode.bind_eq_of_rel (hlookups.wrapped hkind) fun _ _ hsame => hsame.sameQualified
  have hself := countTemplatedScopes_eq_of_alike hlookups
  rw [Declarator.qualifiedName?_eq, Declarator.qualifiedName?_eq right, ← hshell.kind_eq]
  cases hkind : left.kind
  case qualifiedIdentifier | qualifiedOperatorCastIdentifier => exact congrArg some hself
  case functionDeclarator =>
    rw [Option.map_bind, Option.map_bind]
    exact hinner
  case pointerDeclarator | referenceDeclarator | attributedDeclarator | parenthesizedDeclarator =>
    rw [Option.map_bind, Option.map_bind]
    exact hwrapped (by rw [hkind]; decide)
  all_goals rfl

theorem callableEntity_eq_of_alike : callableEntity left = callableEntity right := by
  funext owner declared
  rw [callableEntity, callableEntity, child?_isSome_eq hlookups, hshell.line_eq]

theorem definedCallable?_eq_of_alike (owner : Option String) :
    definedCallable? source left owner = definedCallable? source right owner := by
  rw [definedCallable?, definedCallable?, callableEntity_eq_of_alike hshell hlookups,
    child?_bind_eq hlookups .declarator fun _ _ hsame => hsame.sameFunction]

theorem declaredCallables_eq_of_alike (owner : Option String) :
    declaredCallables source left owner = declaredCallables source right owner := by
  rw [declaredCallables, declaredCallables, callableEntity_eq_of_alike hshell hlookups,
    SyntaxNode.filterMap_eq_of_forall₂ (hlookups.inField .declarator)
      fun _ _ hsame => hsame.sameFunction]

theorem tagOf_eq_of_alike : tagOf source left = tagOf source right := by
  rw [tagOf_eq, tagOf_eq source right, hshell.kind_eq, hshell.text_eq,
    child?_map_eq hlookups .name fun _ _ hsame => hsame.sameTag]

theorem qualifierOf_eq_of_alike : qualifierOf source left = qualifierOf source right := by
  rw [qualifierOf, qualifierOf, hshell.kind_eq, hshell.text_eq,
    child?_map_eq hlookups .name fun _ _ hsame => hsame.sameShell.text_eq source]

theorem linkageEntity_eq_of_alike : linkageEntity source left = linkageEntity source right := by
  funext members
  rw [linkageEntity, linkageEntity, linkageName, linkageName, hshell.line_eq,
    child?_map_eq hlookups .value fun _ _ hsame => hsame.sameShell.chars_eq source]

theorem enumEntity_eq_of_alike : enumEntity source left = enumEntity source right := by
  rw [enumEntity, enumEntity, tagName, tagName, hshell.line_eq, child?_isSome_eq hlookups,
    child?_map_eq hlookups .name fun _ _ hsame => hsame.sameTag]

theorem lower_eq_of_alike (hkind : left.kind ∉ withMembers) (owner : Option String) :
    lower source left owner = lower source right owner := by
  have hbody : (left.child? .body).toList.flatMap (lower source · owner) =
      (right.child? .body).toList.flatMap (lower source · owner) := by
    rcases SyntaxNode.none_or_some_of_rel (hlookups.child .body) with
      ⟨hleft, hright⟩ | ⟨first, second, hleft, hright, hsame⟩
    · rw [hleft, hright]
    · rw [hleft, hright, Option.toList_some, Option.toList_some, List.flatMap_singleton,
        List.flatMap_singleton, hsame.sameEntities]
  obtain ⟨hheaders, hcontents⟩ := templateHeaders_alike hlookups
  rw [lower_eq, lower_eq source right, ← hshell.kind_eq, hshell.line_eq,
    definedCallable?_eq_of_alike hshell hlookups, definedType?_flatMap_eq hlookups,
    declaredCallables_eq_of_alike hshell hlookups, linkageEntity_eq_of_alike hshell hlookups, hbody,
    enumEntity_eq_of_alike hshell hlookups, hheaders, hcontents,
    namedChildren_flatMap_eq hlookups owner, namedChildren_flatMap_eq hlookups none]
  -- The two sides now differ for classes and namespaces only.
  generalize left.kind = kind at hkind ⊢
  cases kind
  case namespaceDefinition | classSpecifier | structSpecifier | unionSpecifier =>
    exact absurd (by decide) hkind
  all_goals rfl

end Congruence

/-- Nodes are alike if what is looked up in them is, as long as no child is read as a body. -/
theorem Alike.of_lookups (hshell : SameShell left right) (hkind : left.kind ∉ withMembers)
    (hlookups : AlikeLookups source left right) : Alike source left right where
  sameShell := hshell
  sameEntities := lower_eq_of_alike hshell hlookups hkind
  sameSpelling := spelledName?_eq_of_alike hshell hlookups
  sameFunction := functionName?_eq_of_alike hshell hlookups
  sameScopes _ := countTemplatedScopes_eq_of_alike hlookups
  sameQualified := qualifiedName?_map_eq_of_alike hshell hlookups
  sameSpent := spentHeaders_eq_of_alike hlookups hshell.kind_eq
  sameTag := tagOf_eq_of_alike hshell hlookups
  sameQualifier := qualifierOf_eq_of_alike hshell hlookups
  sameBody _ := child?_isSome_eq hlookups .body
  sameHeaders _ := (templateHeaders_alike hlookups).1
  sameContents _ := (templateHeaders_alike hlookups).2

theorem Alike.of_children (hshell : SameShell left right) (hkind : left.kind ∉ withMembers)
    (hchildren : Forall₂ (Alike source) left.children right.children) :
    Alike source left right :=
  .of_lookups hshell hkind (.of_children hchildren)

end Lowering

end NamingCheck
