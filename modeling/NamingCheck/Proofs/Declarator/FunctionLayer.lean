import Mathlib.Logic.Relation
import Mathlib.Tactic.Common
import NamingCheck.Declarator.Name

/-!
# Where the search for a function's name ends

The search enters one declarator after the other. It finds a name only where a function layer
stands directly around the node that spells it, or at a conversion operator, which needs no such
layer.
-/

namespace NamingCheck.Declarator

open Relation (ReflTransGen)

/-- The layers through which the search passes whatever is below. -/
def wrapping : List SyntaxKind :=
  [.pointerDeclarator, .referenceDeclarator, .attributedDeclarator, .parenthesizedDeclarator]

/-- The kinds of nodes that spell a name. -/
def spelling : List SyntaxKind :=
  [.identifier, .fieldIdentifier, .operatorName, .destructorName, .operatorCast, .templateFunction,
    .qualifiedIdentifier, .qualifiedOperatorCastIdentifier]

/-- A conversion operator is named in one of these ways. -/
def spellingConversion : List SyntaxKind :=
  [.operatorCast, .qualifiedIdentifier, .qualifiedOperatorCastIdentifier]

/-- One step of the search, from a layer to the declarator that it is put around. -/
inductive Enters : SyntaxNode → SyntaxNode → Prop where
  | function {node inner : SyntaxNode}
      (hkind : node.kind = .functionDeclarator)
      (hinner : node.child? .declarator = some inner) :
      Enters node inner
  | wrapping {node inner : SyntaxNode}
      (hkind : node.kind ∈ wrapping)
      (hinner : node.wrapped? = some inner) :
      Enters node inner

/-- Some function layer of the declarator stands directly around the name. -/
def InFunctionLayer (declarator name : SyntaxNode) : Prop :=
  ∃ layer, ReflTransGen Enters declarator layer ∧ layer.kind = .functionDeclarator ∧
    layer.child? .declarator = some name

/-- Where the search ends. -/
inductive EndsAt (source : ByteArray) (declared : DeclaredName) : SyntaxNode → Prop where
  | functionLayer {layer name : SyntaxNode}
      (hkind : layer.kind = .functionDeclarator)
      (hname : layer.child? .declarator = some name)
      (hspelled : spelledName? source name = some declared) :
      EndsAt source declared layer
  | conversion {name : SyntaxNode}
      (hkind : name.kind ∈ spellingConversion)
      (hspelled : spelledName? source name = some declared)
      (hform : declared.form = .conversion) :
      EndsAt source declared name

variable {source : ByteArray} {node inner : SyntaxNode} {declared : DeclaredName}

theorem spelledName?_eq_none (hkind : node.kind ∉ spelling) : spelledName? source node = none := by
  rw [spelledName?_eq]
  split
  case h_9 => rfl
  all_goals
    next heq =>
      rw [heq] at hkind
      exact absurd (by decide) hkind

theorem kind_mem_spelling_of_spelledName? (hspelled : spelledName? source node = some declared) :
    node.kind ∈ spelling := by
  by_contra hkind
  rw [spelledName?_eq_none hkind] at hspelled
  cases hspelled

theorem spelledName?_operatorCast (hkind : node.kind = .operatorCast) :
    spelledName? source node = some (conversionOf source node) := by
  rw [spelledName?_eq, hkind]

theorem functionName?_operatorCast (hkind : node.kind = .operatorCast) :
    functionName? source node = some (conversionOf source node) := by
  rw [functionName?_eq, hkind]

/-- A node that spells a name is read no further, except for a conversion operator, and that is
found under the name that it spells. -/
theorem functionName?_eq_some_iff_of_spelledName? {spelled : DeclaredName}
    (hspelled : spelledName? source node = some spelled) :
    functionName? source node = some declared ↔
      node.kind ∈ spellingConversion ∧ spelled = declared ∧ declared.form = .conversion := by
  have hspelling := kind_mem_spelling_of_spelledName? hspelled
  by_cases hcast : node.kind = .operatorCast
  · rw [spelledName?_operatorCast hcast, Option.some.injEq] at hspelled
    rw [functionName?_operatorCast hcast, hspelled, Option.some.injEq]
    constructor
    · rintro rfl
      exact ⟨by rw [hcast]; decide, rfl, by rw [← hspelled]; rfl⟩
    · exact fun hfound => hfound.2.1
  · simp only [spelling, List.mem_cons, List.not_mem_nil, or_false, hcast, false_or] at hspelling
    rw [functionName?_eq]
    rcases hspelling with hkind | hkind | hkind | hkind | hkind | hkind | hkind <;> rw [hkind]
    all_goals simp [spellingConversion, hspelled, Option.filter_eq_some_iff]

theorem functionName?_of_enters (henters : Enters node inner)
    (hfound : functionName? source inner = some declared) :
    functionName? source node = some declared := by
  rw [functionName?_eq]
  cases henters with
  | function hkind hinner =>
      rw [hkind]
      simp only [hinner, Option.bind_some]
      cases hspelled : spelledName? source inner with
      | none => exact hfound
      | some spelled =>
          obtain ⟨-, rfl, -⟩ := (functionName?_eq_some_iff_of_spelledName? hspelled).1 hfound
          rfl
  | wrapping hkind hinner =>
      simp only [wrapping, List.mem_cons, List.not_mem_nil, or_false] at hkind
      rcases hkind with hkind | hkind | hkind | hkind <;> rw [hkind]
      all_goals
        simp only [hinner, Option.bind_some]
        exact hfound

theorem functionName?_of_endsAt (hends : EndsAt source declared node) :
    functionName? source node = some declared := by
  cases hends with
  | functionLayer hkind hname hspelled =>
      rw [functionName?_eq, hkind]
      simp only [hname, Option.bind_some, hspelled, Option.some_or]
  | conversion hkind hspelled hform =>
      exact (functionName?_eq_some_iff_of_spelledName? hspelled).2 ⟨hkind, rfl, hform⟩

/-- One step of the search: it goes on, or it ends here. -/
theorem functionName?_step (hfound : functionName? source node = some declared) :
    (∃ inner, Enters node inner ∧ functionName? source inner = some declared) ∨
      EndsAt source declared node := by
  rw [functionName?_eq] at hfound
  split at hfound
  case h_1 hkind =>
    obtain ⟨inner, hinner, hname⟩ := Option.bind_eq_some_iff.1 hfound
    rcases Option.or_eq_some_iff.1 hname with hspelled | ⟨-, hbelow⟩
    · exact Or.inr (.functionLayer hkind hinner hspelled)
    · exact Or.inl ⟨inner, .function hkind hinner, hbelow⟩
  case h_6 hkind =>
    have hspelled : spelledName? source node = some declared := by
      rw [spelledName?_operatorCast hkind]
      exact hfound
    have hform : declared.form = .conversion := by
      rw [← Option.some.inj hfound]
      rfl
    exact Or.inr (.conversion (by rw [hkind]; decide) hspelled hform)
  case h_7 hkind | h_8 hkind =>
    obtain ⟨hspelled, hform⟩ := Option.filter_eq_some_iff.1 hfound
    exact Or.inr (.conversion (by rw [hkind]; decide) hspelled (by simpa using hform))
  case h_9 => cases hfound
  all_goals
    next hkind =>
      obtain ⟨inner, hinner, hbelow⟩ := Option.bind_eq_some_iff.1 hfound
      exact Or.inl ⟨inner, .wrapping (by rw [hkind]; decide) hinner, hbelow⟩

theorem Enters.mem_children (henters : Enters node inner) : inner ∈ node.children := by
  cases henters with
  | function _ hinner => exact List.mem_of_find?_eq_some hinner
  | wrapping _ hinner => exact SyntaxNode.mem_children_of_wrapped? hinner

theorem Enters.size_lt (henters : Enters node inner) : inner.size < node.size :=
  SyntaxNode.size_lt_of_mem_children henters.mem_children

theorem exists_endsAt_of_functionName? (node : SyntaxNode)
    (hfound : functionName? source node = some declared) :
    ∃ last, ReflTransGen Enters node last ∧ EndsAt source declared last := by
  rcases functionName?_step hfound with ⟨inner, henters, hinner⟩ | hends
  · obtain ⟨last, hreach, hends⟩ := exists_endsAt_of_functionName? inner hinner
    exact ⟨last, .head henters hreach, hends⟩
  · exact ⟨node, .refl, hends⟩
termination_by node.size
decreasing_by exact henters.size_lt

/-- The whole search goes from declarator to declarator until it ends. -/
theorem functionName?_eq_some_iff :
    functionName? source node = some declared ↔
      ∃ last, ReflTransGen Enters node last ∧ EndsAt source declared last := by
  constructor
  · exact exists_endsAt_of_functionName? node
  · rintro ⟨last, hreach, hends⟩
    induction hreach using ReflTransGen.head_induction_on with
    | refl => exact functionName?_of_endsAt hends
    | head henters _ ih => exact functionName?_of_enters henters ih

theorem functionName?_of_inFunctionLayer {name : SyntaxNode} (hlayer : InFunctionLayer node name)
    (hspelled : spelledName? source name = some declared) :
    functionName? source node = some declared := by
  obtain ⟨layer, hreach, hkind, hname⟩ := hlayer
  exact functionName?_eq_some_iff.2 ⟨layer, hreach, .functionLayer hkind hname hspelled⟩

end NamingCheck.Declarator
