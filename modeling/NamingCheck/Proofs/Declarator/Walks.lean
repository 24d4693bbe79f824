import NamingCheck.Proofs.Declarator.FunctionLayer
import NamingCheck.Proofs.Declarator.Scopes
import NamingCheck.Proofs.Lowering.TemplateHeaders

/-!
# Two walks through one declarator

The search for a function's name notes the innermost scope in front of it. Another walk looks for
the qualified name alone, to count the templated scopes on which headers are spent. Both enter the
same layers. Along the name the one goes by kind and the other by how the kind begins, but where a
name is spelled no kind tells them apart. So they follow the same chain of qualified names, unless
template arguments are put behind a name that has a scope already.
-/

namespace NamingCheck.Declarator

open Lowering (introducing)
open OrderedTree (mem_preorder_of_mem_children preorder preorder_subset_of_mem self_mem_preorder)

/-- Template arguments stand behind the last part of a qualified name, never behind the whole. -/
def PlainTemplates (root : SyntaxNode) : Prop :=
  ∀ node ∈ preorder root, node.kind = .templateFunction →
    ∀ name ∈ node.child? .name, name.kind ∉ qualifying

instance (root : SyntaxNode) : Decidable (PlainTemplates root) :=
  inferInstanceAs (Decidable (∀ node ∈ preorder root, _ → ∀ name ∈ _, _))

/-- The search finds the name in the declarator, and reads it along these qualified names. -/
inductive FoundAlong (source : ByteArray) :
    List SyntaxNode → SyntaxNode → DeclaredName → Prop where
  | functionLayer {chain : List SyntaxNode} {layer name : SyntaxNode} {declared : DeclaredName}
      (hkind : layer.kind = .functionDeclarator)
      (hname : layer.child? .declarator = some name)
      (halong : SpelledAlong source chain name declared) :
      FoundAlong source chain layer declared
  | conversion {chain : List SyntaxNode} {name : SyntaxNode} {declared : DeclaredName}
      (hkind : name.kind ∈ spellingConversion)
      (halong : SpelledAlong source chain name declared)
      (hform : declared.form = .conversion) :
      FoundAlong source chain name declared
  | inside {chain : List SyntaxNode} {node inner : SyntaxNode} {declared : DeclaredName}
      (henters : Enters node inner)
      (hfound : FoundAlong source chain inner declared) :
      FoundAlong source chain node declared

variable {source : ByteArray} {chain : List SyntaxNode} {root node inner declarator : SyntaxNode}
  {declared : DeclaredName}

/-! ### The walk of the search -/

theorem functionName?_eq_some_iff_foundAlong :
    functionName? source node = some declared ↔ ∃ chain, FoundAlong source chain node declared := by
  constructor
  · intro hfound
    obtain ⟨last, hreach, hends⟩ := functionName?_eq_some_iff.1 hfound
    induction hreach using Relation.ReflTransGen.head_induction_on with
    | refl =>
        cases hends with
        | functionLayer hkind hname hspelled =>
            obtain ⟨chain, halong⟩ := spelledName?_eq_some_iff.1 hspelled
            exact ⟨chain, .functionLayer hkind hname halong⟩
        | conversion hkind hspelled hform =>
            obtain ⟨chain, halong⟩ := spelledName?_eq_some_iff.1 hspelled
            exact ⟨chain, .conversion hkind halong hform⟩
    | head henters hrest ih =>
        obtain ⟨chain, hbelow⟩ := ih (functionName?_eq_some_iff.2 ⟨last, hrest, hends⟩)
        exact ⟨chain, .inside henters hbelow⟩
  · rintro ⟨chain, hfound⟩
    induction hfound with
    | functionLayer hkind hname halong =>
        exact functionName?_of_endsAt
          (.functionLayer hkind hname (spelledName?_eq_some_iff.2 ⟨_, halong⟩))
    | conversion hkind halong hform =>
        exact functionName?_of_endsAt
          (.conversion hkind (spelledName?_eq_some_iff.2 ⟨_, halong⟩) hform)
    | inside henters _ ih => exact functionName?_of_enters henters ih

theorem FoundAlong.exists_spelledAlong (hfound : FoundAlong source chain node declared) :
    ∃ name, SpelledAlong source chain name declared := by
  induction hfound with
  | functionLayer _ _ halong => exact ⟨_, halong⟩
  | conversion _ halong _ => exact ⟨_, halong⟩
  | inside _ _ ih => exact ih

/-! ### The walk for the qualified name -/

theorem qualifiedName?_of_enters (henters : Enters node inner) :
    qualifiedName? node = qualifiedName? inner := by
  rw [qualifiedName?_eq]
  cases henters with
  | function hkind hinner =>
      rw [hkind]
      simp only [hinner, Option.bind_some]
  | wrapping hkind hinner =>
      simp only [wrapping, List.mem_cons, List.not_mem_nil, or_false] at hkind
      rcases hkind with hkind | hkind | hkind | hkind <;>
        · rw [hkind]
          simp only [hinner, Option.bind_some]

theorem qualifiedName?_of_spelledName? (hspelled : spelledName? source node = some declared) :
    qualifiedName? node = if node.kind ∈ qualifying then some node else none := by
  have hspelling := kind_mem_spelling_of_spelledName? hspelled
  rw [qualifiedName?_eq]
  simp only [spelling, List.mem_cons, List.not_mem_nil, or_false] at hspelling
  rcases hspelling with hkind | hkind | hkind | hkind | hkind | hkind | hkind | hkind <;>
    · rw [hkind]
      rfl

/-- Among the kinds that spell a name, the beginning is enough to tell the qualified ones. -/
theorem isQualified_iff_mem_qualifying {kind : SyntaxKind} (hspelling : kind ∈ spelling) :
    kind.isQualified = true ↔ kind ∈ qualifying := by
  have hall : ∀ kind ∈ spelling, (kind.isQualified = true ↔ kind ∈ qualifying) := by decide
  exact hall kind hspelling

theorem PlainTemplates.of_mem (hplain : PlainTemplates root) (hmem : node ∈ preorder root) :
    PlainTemplates node :=
  fun below hbelow => hplain below (preorder_subset_of_mem root hmem hbelow)

theorem PlainTemplates.of_mem_children (hplain : PlainTemplates node)
    (hmem : inner ∈ node.children) : PlainTemplates inner :=
  fun below hbelow => hplain below (mem_preorder_of_mem_children hmem hbelow)

theorem PlainTemplates.of_child? {field : SyntaxField} (hplain : PlainTemplates node)
    (hchild : node.child? field = some inner) : PlainTemplates inner :=
  hplain.of_mem_children (List.mem_of_find?_eq_some hchild)

/-- Below a qualified name both walks go on as long as there is a further one. -/
theorem SpelledAlong.chain_eq (halong : SpelledAlong source chain node declared)
    (hplain : PlainTemplates node) :
    chain = if node.kind ∈ qualifying then nestedNames node else [] := by
  induction halong with
  | bare _ hbare _ => rw [if_neg hbare]
  | specialised hkind hname _ ih =>
      -- The other walk ends here, and behind the arguments there is no further scope.
      have hbare := hplain _ (self_mem_preorder _) hkind _ hname
      rw [ih (hplain.of_child? hname), if_neg hbare, hkind]
      rfl
  | @underScope chain node name declared hkind hname halong ih =>
      -- One walk asks for either of two kinds, the other for their common beginning.
      have hspelled := spelledName?_eq_some_iff.2 ⟨chain, halong⟩
      have hsame := isQualified_iff_mem_qualifying (kind_mem_spelling_of_spelledName? hspelled)
      rw [if_pos hkind, nestedNames_of_child? hname, ih (hplain.of_child? hname)]
      exact congrArg (node :: ·) (if_congr hsame.symm rfl rfl)

theorem nestedNames_ne_nil (node : SyntaxNode) : nestedNames node ≠ [] := by
  rw [nestedNames]
  exact List.cons_ne_nil _ _

theorem SpelledAlong.chain_eq_elim (halong : SpelledAlong source chain node declared)
    (hplain : PlainTemplates node) : chain = (qualifiedName? node).elim [] nestedNames := by
  rw [qualifiedName?_of_spelledName? (spelledName?_eq_some_iff.2 ⟨chain, halong⟩),
    halong.chain_eq hplain]
  split_ifs <;> rfl

theorem FoundAlong.chain_eq (hfound : FoundAlong source chain node declared)
    (hplain : PlainTemplates node) : chain = (qualifiedName? node).elim [] nestedNames := by
  induction hfound with
  | functionLayer hkind hname halong =>
      rw [qualifiedName?_of_enters (.function hkind hname)]
      exact halong.chain_eq_elim (hplain.of_child? hname)
  | conversion _ halong _ => exact halong.chain_eq_elim hplain
  | inside henters _ ih =>
      rw [qualifiedName?_of_enters henters]
      exact ih (hplain.of_mem_children henters.mem_children)

/-- What is found is marked as qualified just if the other walk finds a qualified name. Both then
follow the same chain, so the headers are spent on the scopes of which the innermost is noted. -/
theorem walks_agree (hplain : PlainTemplates root) (hdeclarator : declarator ∈ preorder root)
    (hfound : functionName? source declarator = some declared) :
    (declared.isQualified = true ↔ ∃ qualified, qualifiedName? declarator = some qualified) ∧
    ∀ qualified, qualifiedName? declarator = some qualified →
      (∀ chain, FoundAlong source chain declarator declared ↔ chain = nestedNames qualified) ∧
      (∀ node, node.kind ∈ introducing → node.child? .declarator = some declarator →
        spentHeaders node = (nestedNames qualified).countP hasTemplatedScope) ∧
      declared.qualifier =
        (scopesOf (nestedNames qualified)).getLast?.map (qualifierOf source) := by
  have hhere := hplain.of_mem hdeclarator
  obtain ⟨chain, halong⟩ := functionName?_eq_some_iff_foundAlong.1 hfound
  obtain ⟨name, hspelled⟩ := halong.exists_spelledAlong
  have hchain := halong.chain_eq hhere
  refine ⟨?_, fun qualified hqualified => ⟨fun other => ⟨fun hother => ?_, ?_⟩, ?_, ?_⟩⟩
  · rw [hspelled.isQualified_iff, hchain, ← Option.ne_none_iff_exists']
    cases qualifiedName? declarator with
    | none => exact iff_of_false (not_not.2 rfl) (not_not.2 rfl)
    | some qualified => exact iff_of_true (nestedNames_ne_nil qualified) (Option.some_ne_none _)
  · rw [hother.chain_eq hhere, hqualified, Option.elim_some]
  · rintro rfl
    rw [hqualified, Option.elim_some] at hchain
    rwa [← hchain]
  · intro node hkind hnode
    rw [Lowering.spentHeaders_eq_templatedScopes, Lowering.templatedScopes, if_pos hkind, hnode,
      Option.bind_some, hqualified]
  · rw [hspelled.qualifier_eq, hchain, hqualified, Option.elim_some]

/-- `int *a::Box<T>::fill<T>();` -/
def fillSource : ByteArray := "int *a::Box<T>::fill<T>();".toUTF8

def fillName : SyntaxNode :=
  { SyntaxNode.blank with
    kind := .templateFunction
    field := some .name
    start := 16
    stop := 23
    children :=
      [{ SyntaxNode.blank with
         kind := .identifier, field := some .name, start := 16, stop := 20 }] }

def fillInside : SyntaxNode :=
  { SyntaxNode.blank with
    kind := .qualifiedIdentifier
    field := some .name
    start := 8
    stop := 23
    children :=
      [{ SyntaxNode.blank with
         kind := .templateType
         field := some .scope
         start := 8
         stop := 14
         children :=
           [{ SyntaxNode.blank with
              kind := .other "type_identifier", field := some .name, start := 8, stop := 11 }] },
       fillName] }

def fillQualified : SyntaxNode :=
  { SyntaxNode.blank with
    kind := .qualifiedIdentifier
    field := some .declarator
    start := 5
    stop := 23
    children :=
      [{ SyntaxNode.blank with
         kind := .other "namespace_identifier", field := some .scope, start := 5, stop := 6 },
       fillInside] }

def fillLayer : SyntaxNode :=
  { SyntaxNode.blank with
    kind := .functionDeclarator
    field := some .declarator
    start := 5
    stop := 25
    children := [fillQualified] }

def fillDeclarator : SyntaxNode :=
  { SyntaxNode.blank with
    kind := .pointerDeclarator
    field := some .declarator
    start := 4
    stop := 25
    children := [fillLayer] }

def fillDeclaration : SyntaxNode :=
  { SyntaxNode.blank with
    kind := .declaration
    stop := 26
    children :=
      [{ SyntaxNode.blank with
         kind := .other "primitive_type", field := some .type, stop := 3 },
       fillDeclarator] }

/-- Of two scopes the inner one is noted, and it is the one that has arguments. -/
theorem walks_agree_fill :
    ∃ declared, functionName? fillSource fillDeclarator = some declared ∧
      declared.isQualified = true ∧
      FoundAlong fillSource [fillQualified, fillInside] fillDeclarator declared ∧
      spentHeaders fillDeclaration = 1 ∧ declared.qualifier = some "Box" := by
  have hplain : PlainTemplates fillDeclaration := by decide +kernel
  have hchild : fillDeclarator ∈ fillDeclaration.children := List.mem_of_mem_tail List.mem_cons_self
  have hdeclarator : fillDeclarator ∈ preorder fillDeclaration :=
    mem_preorder_of_mem_children hchild (self_mem_preorder fillDeclarator)
  have hpointer : Enters fillDeclarator fillLayer := .wrapping (by decide) rfl
  have hlayer : Enters fillLayer fillQualified := .function rfl rfl
  have hqualified : qualifiedName? fillDeclarator = some fillQualified := by
    rw [qualifiedName?_of_enters hpointer, qualifiedName?_of_enters hlayer, qualifiedName?_eq]
    rfl
  have hinside : fillQualified.child? .name = some fillInside := rfl
  have hname : fillInside.child? .name = some fillName := rfl
  have hnested : nestedNames fillQualified = [fillQualified, fillInside] := by
    rw [nestedNames_of_child? hinside, if_pos (by decide), nestedNames_of_child? hname,
      if_neg (by decide)]
  have hsome : (functionName? fillSource fillDeclarator).isSome = true := by decide +kernel
  obtain ⟨declared, hfound⟩ := Option.isSome_iff_exists.1 hsome
  obtain ⟨hmarked, hall⟩ := walks_agree hplain hdeclarator hfound
  obtain ⟨halong, hspent, hqualifier⟩ := hall fillQualified hqualified
  rw [hnested] at halong hspent hqualifier
  refine ⟨declared, hfound, hmarked.2 ⟨_, hqualified⟩, (halong _).2 rfl, ?_, ?_⟩
  · rw [hspent fillDeclaration (by decide) rfl]
    decide
  · rw [hqualifier]
    decide +kernel

end NamingCheck.Declarator
