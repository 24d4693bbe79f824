import Mathlib.Tactic.Common
import NamingCheck.Proofs.Declarator.FunctionLayer

/-!
# The scopes of a qualified name

A qualified name has one scope in front of the rest, which may be qualified again. What is recorded
for the whole name is the innermost scope that is present.
-/

namespace NamingCheck.Declarator

def qualifying : List SyntaxKind := [.qualifiedIdentifier, .qualifiedOperatorCastIdentifier]

/-- The scopes in front of a bare name, from the outermost to the innermost. -/
inductive Scoped : List SyntaxNode → SyntaxNode → SyntaxNode → Prop where
  | innermost {node name : SyntaxNode}
      (hkind : node.kind ∈ qualifying)
      (hname : node.child? .name = some name)
      (hbare : name.kind ∉ qualifying) :
      Scoped (node.child? .scope).toList node name
  | outer {scopes : List SyntaxNode} {node inner name : SyntaxNode}
      (hkind : node.kind ∈ qualifying)
      (hinner : node.child? .name = some inner)
      (hscoped : Scoped scopes inner name) :
      Scoped ((node.child? .scope).toList ++ scopes) node name

/-- The name is spelled by the node, and these are the qualified names that are followed down to the
bare one, from the outermost to the innermost. -/
inductive SpelledAlong (source : ByteArray) :
    List SyntaxNode → SyntaxNode → DeclaredName → Prop where
  | bare {node : SyntaxNode} {declared : DeclaredName}
      (htemplate : node.kind ≠ .templateFunction)
      (hbare : node.kind ∉ qualifying)
      (hspelled : spelledName? source node = some declared) :
      SpelledAlong source [] node declared
  | specialised {chain : List SyntaxNode} {node name : SyntaxNode} {declared : DeclaredName}
      (hkind : node.kind = .templateFunction)
      (hname : node.child? .name = some name)
      (halong : SpelledAlong source chain name declared) :
      SpelledAlong source chain node declared
  | underScope {chain : List SyntaxNode} {node name : SyntaxNode} {declared : DeclaredName}
      (hkind : node.kind ∈ qualifying)
      (hname : node.child? .name = some name)
      (halong : SpelledAlong source chain name declared) :
      SpelledAlong source (node :: chain) node
        (declared.qualify ((node.child? .scope).map (qualifierOf source)))

/-- The scopes in front of qualified names, where they have one. -/
def scopesOf (chain : List SyntaxNode) : List SyntaxNode :=
  chain.filterMap (·.child? .scope)

theorem qualify_qualify (declared : DeclaredName) (inner outer : Option String) :
    (declared.qualify inner).qualify outer = declared.qualify (inner.or outer) := by
  simp [DeclaredName.qualify, Option.or_assoc]

variable {source : ByteArray} {scopes chain : List SyntaxNode} {node name inner : SyntaxNode}
  {declared : DeclaredName}

theorem spelledName?_qualifying (hkind : node.kind ∈ qualifying)
    (hname : node.child? .name = some name) :
    spelledName? source node =
      (spelledName? source name).map
        (·.qualify ((node.child? .scope).map (qualifierOf source))) := by
  simp only [qualifying, List.mem_cons, List.not_mem_nil, or_false] at hkind
  rw [spelledName?_eq]
  rcases hkind with hkind | hkind <;> rw [hkind] <;> simp only [hname, Option.bind_some]

theorem spelledName?_specialised (hkind : node.kind = .templateFunction)
    (hname : node.child? .name = some name) :
    spelledName? source node = spelledName? source name := by
  rw [spelledName?_eq, hkind]
  simp only [hname, Option.bind_some]

/-- Nothing about scopes is noted for a bare name. -/
theorem eq_ofForm_of_spelledName? (htemplate : node.kind ≠ .templateFunction)
    (hbare : node.kind ∉ qualifying) (hspelled : spelledName? source node = some declared) :
    declared = .ofForm declared.form declared.name := by
  have hspelling := kind_mem_spelling_of_spelledName? hspelled
  simp only [spelling, List.mem_cons, List.not_mem_nil, or_false, htemplate, false_or] at hspelling
  simp only [qualifying, List.mem_cons, List.not_mem_nil, or_false, not_or] at hbare
  rw [spelledName?_eq] at hspelled
  rcases hspelling with hkind | hkind | hkind | hkind | hkind | hkind | hkind
  case inr.inr.inr.inr.inr.inl => exact absurd hkind hbare.1
  case inr.inr.inr.inr.inr.inr => exact absurd hkind hbare.2
  all_goals
    rw [hkind, Option.some.injEq] at hspelled
    rw [← hspelled]
    rfl

theorem exists_name_of_spelledName? (hspelled : spelledName? source node = some declared)
    (hkind : node.kind = .templateFunction ∨ node.kind ∈ qualifying) :
    ∃ name, node.child? .name = some name := by
  rw [← Option.ne_none_iff_exists']
  intro hnone
  simp only [qualifying, List.mem_cons, List.not_mem_nil, or_false] at hkind
  rw [spelledName?_eq] at hspelled
  rcases hkind with hkind | hkind | hkind <;>
    simp [hkind, hnone] at hspelled

theorem getLast?_toList_append {α : Type} (first : Option α) (rest : List α) :
    (first.toList ++ rest).getLast? = rest.getLast?.or first := by
  rw [List.getLast?_append]
  cases first <;> rfl

/-- All scopes but the innermost are forgotten. -/
theorem Scoped.spelledName?_eq (hscoped : Scoped scopes node name) :
    spelledName? source node =
      (spelledName? source name).map (·.qualify (scopes.getLast?.map (qualifierOf source))) := by
  induction hscoped with
  | @innermost node name hkind hname _ =>
      rw [spelledName?_qualifying hkind hname]
      cases node.child? .scope <;> rfl
  | @outer scopes node inner name hkind hinner _ ih =>
      rw [spelledName?_qualifying hkind hinner, ih, getLast?_toList_append, Option.map_map,
        Option.map_or]
      congr 1
      funext declared
      exact qualify_qualify declared _ _

/-! ### The names followed down to the bare one -/

theorem exists_spelledAlong (node : SyntaxNode) (declared : DeclaredName)
    (hspelled : spelledName? source node = some declared) :
    ∃ chain, SpelledAlong source chain node declared := by
  by_cases htemplate : node.kind = .templateFunction
  · obtain ⟨name, hname⟩ := exists_name_of_spelledName? hspelled (Or.inl htemplate)
    rw [spelledName?_specialised htemplate hname] at hspelled
    obtain ⟨chain, halong⟩ := exists_spelledAlong name declared hspelled
    exact ⟨chain, .specialised htemplate hname halong⟩
  by_cases hkind : node.kind ∈ qualifying
  · obtain ⟨name, hname⟩ := exists_name_of_spelledName? hspelled (Or.inr hkind)
    rw [spelledName?_qualifying hkind hname] at hspelled
    obtain ⟨bare, hbare, rfl⟩ := Option.map_eq_some_iff.1 hspelled
    obtain ⟨chain, halong⟩ := exists_spelledAlong name bare hbare
    exact ⟨node :: chain, .underScope hkind hname halong⟩
  · exact ⟨[], .bare htemplate hkind hspelled⟩
termination_by node.size
decreasing_by all_goals exact SyntaxNode.size_lt_of_child? hname

theorem spelledName?_eq_some_iff :
    spelledName? source node = some declared ↔ ∃ chain, SpelledAlong source chain node declared := by
  constructor
  · exact exists_spelledAlong node declared
  · rintro ⟨chain, halong⟩
    induction halong with
    | bare _ _ hspelled => exact hspelled
    | specialised hkind hname _ ih => rw [spelledName?_specialised hkind hname, ih]
    | underScope hkind hname _ ih => rw [spelledName?_qualifying hkind hname, ih, Option.map_some]

theorem scopesOf_cons (node : SyntaxNode) (chain : List SyntaxNode) :
    scopesOf (node :: chain) = (node.child? .scope).toList ++ scopesOf chain := by
  rw [scopesOf, List.filterMap_cons]
  cases node.child? .scope <;> rfl

/-- A name is marked as qualified by each node of the chain, and by nothing else. -/
theorem SpelledAlong.isQualified_iff (halong : SpelledAlong source chain node declared) :
    declared.isQualified = true ↔ chain ≠ [] := by
  induction halong with
  | bare htemplate hbare hspelled =>
      rw [eq_ofForm_of_spelledName? htemplate hbare hspelled]
      exact iff_of_false Bool.false_ne_true (not_not.2 rfl)
  | specialised _ _ _ ih => exact ih
  | underScope => exact iff_of_true rfl (List.cons_ne_nil _ _)

/-- The scope that is added first, from the inside, stays. -/
theorem SpelledAlong.qualifier_eq (halong : SpelledAlong source chain node declared) :
    declared.qualifier = (scopesOf chain).getLast?.map (qualifierOf source) := by
  induction halong with
  | bare htemplate hbare hspelled =>
      rw [eq_ofForm_of_spelledName? htemplate hbare hspelled]
      rfl
  | specialised _ _ _ ih => exact ih
  | @underScope chain node name declared hkind hname halong ih =>
      rw [scopesOf_cons, getLast?_toList_append, Option.map_or, ← ih]
      rfl

end NamingCheck.Declarator
