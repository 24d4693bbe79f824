import NamingCheck.Proofs.Declarator.FunctionLayer
import NamingCheck.Proofs.Declarator.Scopes
import NamingCheck.Proofs.Declarator.Tower
import NamingCheck.Proofs.Verdict.Forest

/-!
# No variable is taken for a function

What is found under a function's name stands directly in a function layer, conversion operators
apart. The declarator of a variable has no such layer, so no entity and no verdict comes from it.
-/

namespace NamingCheck

namespace Declarator

/-- The kinds of nodes that may carry the name of a function other than a conversion operator. -/
def carrying : List SyntaxKind :=
  [.identifier, .fieldIdentifier, .operatorName, .destructorName, .templateFunction,
    .qualifiedIdentifier, .qualifiedOperatorCastIdentifier]

/-- The node carries the declared name. -/
def Carries (source : ByteArray) (node : SyntaxNode) (declared : DeclaredName) : Prop :=
  node.kind ∈ carrying ∧ spelledName? source node = some declared

/-- What a variable may be called: an identifier, with template arguments and scopes around it. -/
inductive ObjectName : SyntaxNode → Prop where
  | plain {node : SyntaxNode} (hkind : node.kind = .identifier ∨ node.kind = .fieldIdentifier) :
      ObjectName node
  | specialised {node name : SyntaxNode}
      (hkind : node.kind = .templateFunction)
      (hchild : node.child? .name = some name)
      (hname : ObjectName name) :
      ObjectName node
  | underScope {node name : SyntaxNode}
      (hkind : node.kind = .qualifiedIdentifier)
      (hchild : node.child? .name = some name)
      (hname : ObjectName name) :
      ObjectName node

/-- The grammar puts a pointer to member in the place of a scoped name. -/
inductive MemberPointer : SyntaxNode → Prop where
  | pointer {node name : SyntaxNode}
      (hkind : node.kind = .qualifiedIdentifier)
      (hchild : node.child? .name = some name)
      (hname : name.kind = .other "pointer_type_declarator") :
      MemberPointer node
  | underScope {node name : SyntaxNode}
      (hkind : node.kind = .qualifiedIdentifier)
      (hchild : node.child? .name = some name)
      (hname : MemberPointer name) :
      MemberPointer node

/-- The declarators of variables, among them pointers and references to functions and arrays of
these. -/
inductive Variable : SyntaxNode → Prop where
  | initialised {node : SyntaxNode} (hkind : node.kind = .other "init_declarator") : Variable node
  | object {layers : List Layer} {node name : SyntaxNode}
      (htower : Tower layers node name)
      (hname : ObjectName name)
      (hlayers : ¬DeclaresFunction layers) :
      Variable node
  | memberPointer {layers : List Layer} {node name : SyntaxNode}
      (htower : Tower layers node name)
      (hname : MemberPointer name) :
      Variable node

variable {source : ByteArray} {layers : List Layer} {node name : SyntaxNode}
  {declared : DeclaredName}

theorem carries_or_form_eq (hspelled : spelledName? source name = some declared) :
    declared.form = .conversion ∨ Carries source name declared := by
  have hkind := kind_mem_spelling_of_spelledName? hspelled
  by_cases hcast : name.kind = .operatorCast
  · rw [spelledName?_operatorCast hcast, Option.some.injEq] at hspelled
    rw [← hspelled]
    exact Or.inl rfl
  · refine Or.inr ⟨?_, hspelled⟩
    simpa [carrying, spelling, hcast] using hkind

theorem inFunctionLayer_of_functionName? (hfound : functionName? source node = some declared) :
    declared.form = .conversion ∨
      ∃ name, InFunctionLayer node name ∧ Carries source name declared := by
  obtain ⟨last, hreach, hends⟩ := functionName?_eq_some_iff.1 hfound
  cases hends with
  | functionLayer hkind hname hspelled =>
      refine (carries_or_form_eq hspelled).imp_right fun hcarries => ?_
      exact ⟨_, ⟨last, hreach, hkind, hname⟩, hcarries⟩
  | conversion _ _ hform => exact Or.inl hform

/-! ### Variables -/

theorem ObjectName.form_eq (hname : ObjectName name)
    (hspelled : spelledName? source name = some declared) : declared.form = .plain := by
  induction hname generalizing declared with
  | plain hkind =>
      rw [spelledName?_eq] at hspelled
      rcases hkind with hkind | hkind <;>
        · rw [hkind, Option.some.injEq] at hspelled
          rw [← hspelled]
          rfl
  | specialised hkind hchild _ ih =>
      rw [spelledName?_specialised hkind hchild] at hspelled
      exact ih hspelled
  | underScope hkind hchild _ ih =>
      rw [spelledName?_qualifying (by rw [hkind]; decide) hchild] at hspelled
      obtain ⟨inner, hinner, rfl⟩ := Option.map_eq_some_iff.1 hspelled
      have hform := ih hinner
      exact hform

theorem MemberPointer.spelledName?_eq_none (hname : MemberPointer name) :
    spelledName? source name = none := by
  induction hname with
  | pointer hkind hchild hname =>
      have hinner : spelledName? source _ = none :=
        Declarator.spelledName?_eq_none (by rw [hname]; decide)
      rw [spelledName?_qualifying (by rw [hkind]; decide) hchild, hinner, Option.map_none]
  | underScope hkind hchild _ ih =>
      rw [spelledName?_qualifying (by rw [hkind]; decide) hchild, ih, Option.map_none]

/-- A node that is no layer is found for a conversion operator alone. -/
theorem functionName?_eq_none_of_form_ne (hkind : name.kind ∈ carrying)
    (hform : ∀ declared, spelledName? source name = some declared → declared.form ≠ .conversion) :
    functionName? source name = none := by
  have hlayer : ∀ kind ∈ carrying, kind ≠ .functionDeclarator ∧ kind ∉ wrapping := by decide
  obtain ⟨hfunction, hwrapping⟩ := hlayer _ hkind
  rw [Option.eq_none_iff_forall_ne_some]
  intro declared hfound
  rcases functionName?_step hfound with ⟨inner, henters, -⟩ | hends
  · cases henters with
    | function hkind _ => exact hfunction hkind
    | wrapping hkind _ => exact hwrapping hkind
  · cases hends with
    | functionLayer hkind _ _ => exact hfunction hkind
    | conversion _ hspelled hconversion => exact hform declared hspelled hconversion

theorem ObjectName.functionName?_eq_none (hname : ObjectName name) :
    functionName? source name = none := by
  refine functionName?_eq_none_of_form_ne ?_ fun declared hspelled => ?_
  · cases hname with
    | plain hkind => rcases hkind with hkind | hkind <;> rw [hkind] <;> decide
    | specialised hkind _ _ => rw [hkind]; decide
    | underScope hkind _ _ => rw [hkind]; decide
  · rw [hname.form_eq hspelled]
    decide

theorem MemberPointer.functionName?_eq_none (hname : MemberPointer name) :
    functionName? source name = none := by
  refine functionName?_eq_none_of_form_ne ?_ fun declared hspelled => ?_
  · cases hname with
    | pointer hkind _ _ => rw [hkind]; decide
    | underScope hkind _ _ => rw [hkind]; decide
  · rw [hname.spelledName?_eq_none] at hspelled
    cases hspelled

/-- What is not found by itself is not found below layers, unless a function layer is directly
around it. -/
theorem functionName?_eq_none_of_tower (htower : Tower layers node name)
    (hname : functionName? source name = none)
    (hlast : layers.getLast? = some .function → spelledName? source name = none) :
    functionName? source node = none := by
  induction htower with
  | bare name => exact hname
  | @wrap layer layers node inner name hlayer hinner ih =>
      have hbelow (hsome : layers ≠ []) : functionName? source inner = none := by
        refine ih hname fun hfunction => hlast ?_
        rw [List.getLast?_cons_of_ne_nil hsome, hfunction]
      have hinside : functionName? source inner = none := by
        cases hinner with
        | bare => exact hname
        | wrap _ _ => exact hbelow (List.cons_ne_nil _ _)
      cases layer with
      | function =>
          rw [functionName?_function hlayer, hinside, Option.or_none]
          cases hinner with
          | bare => exact hlast rfl
          | wrap hsecond _ => exact hsecond.spelledName?_eq_none
      | pointer | reference | parenthesized =>
          rw [functionName?_passing hlayer (by decide), hinside]
      | attributed => exact functionName?_attributed hlayer
      | array => exact functionName?_array hlayer

theorem declaresFunction_of_getLast? (hlast : layers.getLast? = some .function) :
    DeclaresFunction layers := by
  obtain ⟨outer, rfl⟩ := List.getLast?_eq_some_iff.1 hlast
  simp [DeclaresFunction, List.filter_append]

theorem Variable.functionName?_eq_none (hvariable : Variable node) :
    functionName? source node = none := by
  cases hvariable with
  | initialised hkind => rw [functionName?_eq, hkind]
  | object htower hname hlayers =>
      refine functionName?_eq_none_of_tower htower hname.functionName?_eq_none fun hlast => ?_
      exact absurd (declaresFunction_of_getLast? hlast) hlayers
  | memberPointer htower hname =>
      exact functionName?_eq_none_of_tower htower hname.functionName?_eq_none
        fun _ => hname.spelledName?_eq_none

theorem not_variable_of_functionName? (hfound : functionName? source node = some declared) :
    ¬Variable node := by
  intro hvariable
  rw [hvariable.functionName?_eq_none] at hfound
  cases hfound

end Declarator

namespace Lowering

open Declarator (functionName?)
open EntityTree (OwesVerdict)
open OrderedTree (preorder)

variable {source : ByteArray}

theorem mem_childrenIn_of_mem_declarators {node declarator : SyntaxNode}
    (hdeclarator : declarator ∈ declarators node) : declarator ∈ node.childrenIn .declarator := by
  rw [declarators] at hdeclarator
  split at hdeclarator
  case h_1 => exact SyntaxNode.mem_childrenIn_of_child? (Option.mem_toList.1 hdeclarator)
  case h_5 => cases hdeclarator
  all_goals exact hdeclarator

theorem exists_declarator_of_mem_introduced {node : SyntaxNode} {callable : Callable}
    (hmem : callable ∈ introduced source node) :
    ∃ declarator ∈ node.childrenIn .declarator, ∃ declared,
      functionName? source declarator = some declared ∧ callable.name = declared.name ∧
        callable.form = declared.form ∧ callable.line = node.line := by
  simp only [introduced, introducedBy, List.mem_map, List.mem_filterMap] at hmem
  obtain ⟨declared, ⟨declarator, hdeclarator, hfound⟩, rfl⟩ := hmem
  exact ⟨declarator, mem_childrenIn_of_mem_declarators hdeclarator, declared, hfound, rfl, rfl, rfl⟩

theorem exists_declarator_of_callable? {file : String} {root : SyntaxNode} {entity : Entity}
    {callable : Callable} (hentity : entity ∈ preorder (fileEntity source file root))
    (hcallable : entity.callable? = some callable) :
    ∃ node ∈ visited root, ∃ declarator ∈ node.childrenIn .declarator, ∃ declared,
      functionName? source declarator = some declared ∧ callable.name = declared.name ∧
        callable.form = declared.form ∧ callable.line = node.line := by
  have hmem : callable ∈ (preorder (fileEntity source file root)).filterMap Entity.callable? :=
    List.mem_filterMap.2 ⟨entity, hentity, hcallable⟩
  rw [filterMap_callable?_fileEntity] at hmem
  obtain ⟨node, hnode, hintroduced⟩ := List.mem_flatMap.1 hmem
  exact ⟨node, hnode, exists_declarator_of_mem_introduced hintroduced⟩

theorem exists_callable?_of_owesVerdict {entity : Entity} (howes : OwesVerdict entity) :
    ∃ callable, entity.callable? = some callable ∧ callable.name = entity.name ∧
      callable.form = .plain ∧ callable.line = entity.line := by
  obtain ⟨-, -, -, hkind, -⟩ := howes
  have hform : entity.kind.form? = some .plain := by
    rcases hkind with hkind | hkind
    · exact congrArg Entity.Kind.form? hkind
    · exact congrArg Entity.Kind.form? hkind
  exact ⟨_, by rw [Entity.callable?, hform]; rfl, rfl, rfl, rfl⟩

open Declarator (Carries InFunctionLayer Variable)

/-- Every name that is found is directly in a function layer or that of a conversion operator. So no
entity comes from the declarator of a variable, and every verdict is on a name in such a layer. -/
theorem exists_functionLayer_of_lowered (source : ByteArray) :
    (∀ (declarator : SyntaxNode) (declared : DeclaredName),
      functionName? source declarator = some declared →
        declared.form = .conversion ∨
          ∃ name, InFunctionLayer declarator name ∧ Carries source name declared) ∧
    (∀ declarator : SyntaxNode, Variable declarator → functionName? source declarator = none) ∧
    (∀ (file : String) (root : SyntaxNode) (entity : Entity) (callable : Callable),
      entity ∈ preorder (fileEntity source file root) → entity.callable? = some callable →
        ∃ node ∈ visited root, ∃ declarator ∈ node.childrenIn .declarator,
          ¬Variable declarator ∧ ∃ declared, functionName? source declarator = some declared ∧
            callable.name = declared.name ∧ callable.form = declared.form ∧
              callable.line = node.line) ∧
    (∀ (policy : Policy) (file : String) (root : SyntaxNode) (verdict : Verdict),
      verdict ∈ policy.verdicts (fileEntity source file root) →
        ∃ node ∈ visited root, ∃ declarator ∈ node.childrenIn .declarator,
          ¬Variable declarator ∧ ∃ name declared, InFunctionLayer declarator name ∧
            Carries source name declared ∧ verdict.name = declared.name ∧
              verdict.line = node.line) := by
  refine ⟨fun _ _ hfound => Declarator.inFunctionLayer_of_functionName? hfound,
    fun _ hvariable => hvariable.functionName?_eq_none, ?_, ?_⟩
  · intro file root entity callable hentity hcallable
    obtain ⟨node, hnode, declarator, hdeclarator, declared, hfound, hsame⟩ :=
      exists_declarator_of_callable? hentity hcallable
    exact ⟨node, hnode, declarator, hdeclarator,
      Declarator.not_variable_of_functionName? hfound, declared, hfound, hsame⟩
  · intro policy file root verdict hverdict
    obtain ⟨entity, hentity, howes, rfl⟩ := policy.mem_verdicts_iff.1 hverdict
    obtain ⟨callable, hcallable, hname, hform, hline⟩ := exists_callable?_of_owesVerdict howes
    obtain ⟨node, hnode, declarator, hdeclarator, declared, hfound, hsame, hsameForm, hsameLine⟩ :=
      exists_declarator_of_callable? hentity hcallable
    have hplain : declared.form ≠ .conversion := by
      rw [← hsameForm, hform]
      decide
    obtain ⟨name, hlayer, hcarries⟩ :=
      (Declarator.inFunctionLayer_of_functionName? hfound).resolve_left hplain
    refine ⟨node, hnode, declarator, hdeclarator,
      Declarator.not_variable_of_functionName? hfound, name, declared, hlayer, hcarries, ?_, ?_⟩
    · exact hname.symm.trans hsame
    · exact hline.symm.trans hsameLine

/-- `int (*table[3])(int), Look();` -/
def lookSource : ByteArray := "int (*table[3])(int), Look();".toUTF8

def tableName : SyntaxNode :=
  { SyntaxNode.blank with
    kind := .identifier, field := some .declarator, start := 6, stop := 11 }

/-- An array of pointers, without the function layer around it. -/
def tableInside : SyntaxNode :=
  { SyntaxNode.blank with
    kind := .parenthesizedDeclarator
    field := some .declarator
    start := 4
    stop := 15
    children :=
      [{ SyntaxNode.blank with
         kind := .pointerDeclarator
         start := 5
         stop := 14
         children :=
           [{ SyntaxNode.blank with
              kind := .other "array_declarator"
              field := some .declarator
              start := 6
              stop := 14
              children := [tableName] }] }] }

def tableDeclarator : SyntaxNode :=
  { SyntaxNode.blank with
    kind := .functionDeclarator
    field := some .declarator
    start := 4
    stop := 20
    children := [tableInside] }

def lookName : SyntaxNode :=
  { SyntaxNode.blank with
    kind := .identifier, field := some .declarator, start := 22, stop := 26 }

def lookDeclarator : SyntaxNode :=
  { SyntaxNode.blank with
    kind := .functionDeclarator
    field := some .declarator
    start := 22
    stop := 28
    children := [lookName] }

theorem exists_functionLayer_of_lowered_look :
    functionName? lookSource tableDeclarator = none ∧
      ∃ name, InFunctionLayer lookDeclarator name ∧
        Carries lookSource name (.ofForm .plain "Look") := by
  obtain ⟨hfound, hvariables, -⟩ := exists_functionLayer_of_lowered lookSource
  have htower :
      Declarator.Tower [.function, .parenthesized, .pointer, .array] tableDeclarator tableName :=
    .wrap ⟨rfl, rfl⟩ (.wrap ⟨rfl, rfl⟩ (.wrap ⟨rfl, rfl⟩ (.wrap ⟨rfl, rfl⟩ (.bare tableName))))
  have htable : Variable tableDeclarator := .object htower (.plain (Or.inl rfl)) (by decide)
  have hlook : functionName? lookSource lookDeclarator = some (.ofForm .plain "Look") := by
    decide +kernel
  exact ⟨hvariables _ htable, (hfound _ _ hlook).resolve_left (by decide)⟩

end Lowering

end NamingCheck
