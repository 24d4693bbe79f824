import Mathlib.Tactic.Common
import NamingCheck.Proofs.Lowering.Callables

/-!
# Which towers of declarator layers show a function

A declarator is a name with layers put around it, one after the other. It declares a function if the
layer next to the name, parentheses and attributes not counted, is that of a function. The name is
found exactly if no layer is an array or an attribute and the function layer is directly around it.
-/

namespace NamingCheck.Declarator

/-- What may be put around a declarator. -/
inductive Layer where
  | function
  | pointer
  | reference
  | parenthesized
  | attributed
  | array
  deriving DecidableEq, Repr

namespace Layer

/-- How the grammar builds a layer around an inner declarator. An attribute layer has no field for
it, and the attributes stand behind it. -/
def Around : Layer → SyntaxNode → SyntaxNode → Prop
  | function, node, inner =>
      node.kind = .functionDeclarator ∧ node.child? .declarator = some inner
  | pointer, node, inner => node.kind = .pointerDeclarator ∧ node.wrapped? = some inner
  | reference, node, inner => node.kind = .referenceDeclarator ∧ node.wrapped? = some inner
  | parenthesized, node, inner =>
      node.kind = .parenthesizedDeclarator ∧ node.wrapped? = some inner
  | attributed, node, inner =>
      node.kind = .attributedDeclarator ∧ node.child? .declarator = none ∧
        ∃ attributes, attributes ≠ [] ∧ node.namedChildren = inner :: attributes ∧
          ∀ child ∈ attributes, child.kind = .other "attribute_declaration"
  | array, node, inner =>
      node.kind = .other "array_declarator" ∧ node.child? .declarator = some inner

end Layer

/-- A declarator whose layers, from the outermost to the innermost, stand around a name. -/
inductive Tower : List Layer → SyntaxNode → SyntaxNode → Prop where
  | bare (name : SyntaxNode) : Tower [] name name
  | wrap {layer : Layer} {layers : List Layer} {node inner name : SyntaxNode}
      (hlayer : layer.Around node inner) (hinner : Tower layers inner name) :
      Tower (layer :: layers) node name

def nameKinds : List SyntaxKind :=
  [.identifier, .fieldIdentifier, .operatorName, .destructorName, .templateFunction,
    .qualifiedIdentifier]

/-- By the rules of the language the name is that of a function. -/
def DeclaresFunction (layers : List Layer) : Prop :=
  (layers.filter fun layer => layer ≠ .parenthesized ∧ layer ≠ .attributed).getLast? =
    some .function

instance (layers : List Layer) : Decidable (DeclaresFunction layers) :=
  inferInstanceAs (Decidable (_ = _))

/-- A conversion operator under a scope is recognised without a function layer. -/
def IsScopedConversion (name : SyntaxNode) (declared : DeclaredName) : Prop :=
  name.kind = .qualifiedIdentifier ∧ declared.form = .conversion

/-- The layers leave the function visible. -/
def Shows (layers : List Layer) (name : SyntaxNode) (declared : DeclaredName) : Prop :=
  .array ∉ layers ∧ .attributed ∉ layers ∧
    (layers.getLast? = some .function ∨ IsScopedConversion name declared)

instance (name : SyntaxNode) (declared : DeclaredName) :
    Decidable (IsScopedConversion name declared) :=
  inferInstanceAs (Decidable (_ ∧ _))

instance (layers : List Layer) (name : SyntaxNode) (declared : DeclaredName) :
    Decidable (Shows layers name declared) :=
  inferInstanceAs (Decidable (_ ∧ _ ∧ (_ ∨ _)))

/-- What may hide a function whose layers declare one: an array, an attribute, or parentheses
directly around its name. -/
def Hides (layers : List Layer) (name : SyntaxNode) (declared : DeclaredName) : Prop :=
  .array ∈ layers ∨ .attributed ∈ layers ∨
    (layers.getLast? = some .parenthesized ∧ ¬IsScopedConversion name declared)

instance (layers : List Layer) (name : SyntaxNode) (declared : DeclaredName) :
    Decidable (Hides layers name declared) :=
  inferInstanceAs (Decidable (_ ∨ _ ∨ (_ ∧ ¬_)))

variable {source : ByteArray} {layer : Layer} {layers : List Layer}
  {node inner name : SyntaxNode} {declared : DeclaredName}

theorem Layer.Around.spelledName?_eq_none (hlayer : layer.Around node inner) :
    spelledName? source node = none := by
  have hkind := hlayer
  rw [spelledName?_eq]
  cases layer <;> simp only [Layer.Around] at hkind <;> rw [hkind.1]

/-- The last child of an attribute layer is an attribute, and an attribute declares nothing. -/
theorem functionName?_attributed (hlayer : Layer.attributed.Around node inner) :
    functionName? source node = none := by
  obtain ⟨hkind, hchild, attributes, hsome, hnamed, hattributes⟩ := hlayer
  have hlast : node.wrapped? = some (attributes.getLast hsome) := by
    rw [SyntaxNode.wrapped?, hchild, Option.none_or, hnamed, List.getLast?_cons_of_ne_nil hsome,
      List.getLast?_eq_some_getLast hsome]
  rw [functionName?_eq, hkind]
  simp only [hlast, Option.bind_some]
  rw [functionName?_eq, hattributes _ (List.getLast_mem hsome)]

theorem functionName?_array (hlayer : Layer.array.Around node inner) :
    functionName? source node = none := by
  rw [functionName?_eq, hlayer.1]

theorem functionName?_function (hlayer : Layer.function.Around node inner) :
    functionName? source node = (spelledName? source inner).or (functionName? source inner) := by
  rw [functionName?_eq, hlayer.1]
  simp only [hlayer.2, Option.bind_some]

/-- Pointers, references and parentheses are passed through. -/
theorem functionName?_passing (hlayer : layer.Around node inner)
    (hpassing : layer ∈ [.pointer, .reference, .parenthesized]) :
    functionName? source node = functionName? source inner := by
  rw [functionName?_eq]
  cases layer with
  | pointer | reference | parenthesized =>
      rw [hlayer.1]
      simp only [hlayer.2, Option.bind_some]
  | function | attributed | array => simp at hpassing

/-- A bare name is that of a callable only if it is a conversion operator under a scope. -/
theorem functionName?_bare (hname : name.kind ∈ nameKinds)
    (hspelled : spelledName? source name = some declared) :
    functionName? source name =
      if IsScopedConversion name declared then some declared else none := by
  by_cases hkind : name.kind = .qualifiedIdentifier
  · rw [functionName?_eq, hkind]
    simp only [hspelled, Option.filter_some]
    exact if_congr (by simp [IsScopedConversion, hkind]) rfl rfl
  · have hother : ∀ kind ∈ nameKinds, kind ≠ .qualifiedIdentifier →
        kind ∈ [.identifier, .fieldIdentifier, .operatorName, .destructorName,
          .templateFunction] := by decide
    have hplain := hother _ hname hkind
    simp only [List.mem_cons, List.not_mem_nil, or_false] at hplain
    rw [if_neg fun hscoped => hkind hscoped.1, functionName?_eq]
    rcases hplain with hkind | hkind | hkind | hkind | hkind <;> rw [hkind]

theorem shows_cons_of_passing (hpassing : layer ∈ [.pointer, .reference, .parenthesized]) :
    Shows (layer :: layers) name declared ↔ Shows layers name declared := by
  have hother : ∀ layer : Layer, layer ∈ [.pointer, .reference, .parenthesized] →
      .array ≠ layer ∧ .attributed ≠ layer ∧ layer ≠ .function := by decide
  obtain ⟨harray, hattributed, hfunction⟩ := hother layer hpassing
  have hlast : (layer :: layers).getLast? = some .function ↔ layers.getLast? = some .function := by
    cases layers with
    | nil => simp [hfunction]
    | cons second rest => rw [List.getLast?_cons_cons]
  simp [Shows, harray, hattributed, hlast]

theorem shows_function_cons :
    Shows (.function :: layers) name declared ↔ layers = [] ∨ Shows layers name declared := by
  cases layers with
  | nil => simp [Shows]
  | cons second rest => simp [Shows, List.getLast?_cons_cons]

theorem not_shows_of_mem {layer : Layer} (hlayer : layer = .array ∨ layer = .attributed) :
    ¬Shows (layer :: layers) name declared := by
  rintro ⟨harray, hattributed, -⟩
  rcases hlayer with rfl | rfl
  · exact harray List.mem_cons_self
  · exact hattributed List.mem_cons_self

theorem functionName?_of_tower (htower : Tower layers node name) (hname : name.kind ∈ nameKinds)
    (hspelled : spelledName? source name = some declared) :
    functionName? source node = if Shows layers name declared then some declared else none := by
  induction htower with
  | bare name =>
      rw [functionName?_bare hname hspelled]
      exact if_congr (by simp [Shows]) rfl rfl
  | @wrap layer layers node inner name hlayer hinner ih =>
      have hvisible := ih hname hspelled
      cases layer with
      | function =>
          rw [functionName?_function hlayer]
          cases hinner with
          | bare =>
              rw [hspelled, Option.some_or, if_pos (shows_function_cons.2 (Or.inl rfl))]
          | wrap hsecond hrest =>
              rw [hsecond.spelledName?_eq_none, Option.none_or, hvisible]
              exact if_congr (by simp [shows_function_cons]) rfl rfl
      | pointer | reference | parenthesized =>
          rw [functionName?_passing hlayer (by decide), hvisible]
          exact if_congr (shows_cons_of_passing (by decide)).symm rfl rfl
      | attributed =>
          rw [functionName?_attributed hlayer, if_neg (not_shows_of_mem (Or.inr rfl))]
      | array =>
          rw [functionName?_array hlayer, if_neg (not_shows_of_mem (Or.inl rfl))]

/-- Next to the name of a function stands its own layer, or one that does not count. -/
theorem DeclaresFunction.exists_getLast? (hfunction : DeclaresFunction layers) :
    ∃ last ∈ [Layer.function, .parenthesized, .attributed], layers.getLast? = some last := by
  rcases List.eq_nil_or_concat layers with rfl | ⟨outer, last, rfl⟩
  · cases hfunction
  · refine ⟨last, ?_, by simp⟩
    by_contra hlast
    have hcounts : last ≠ .parenthesized ∧ last ≠ .attributed ∧ last ≠ .function := by
      simp at hlast
      tauto
    simp [DeclaresFunction, List.filter_append, hcounts] at hfunction

theorem DeclaresFunction.shows_iff (hfunction : DeclaresFunction layers) :
    Shows layers name declared ↔ ¬Hides layers name declared := by
  obtain ⟨last, hmem, hlast⟩ := hfunction.exists_getLast?
  have hattributed : last = .attributed → .attributed ∈ layers := by
    rintro rfl
    exact List.mem_of_getLast? hlast
  simp only [List.mem_cons, List.not_mem_nil, or_false] at hmem
  rcases hmem with rfl | rfl | rfl <;> simp_all [Shows, Hides]

/-! ### The declaration around the declarator -/

open Entity (callables)
open Lowering (callableOf declaring introducedBy lower)

/-- What the declarator adds to the declaration or definition it belongs to. -/
theorem introducedBy_of_declaresFunction (htower : Tower layers node name)
    (hname : name.kind ∈ nameKinds) (hspelled : spelledName? source name = some declared)
    (hfunction : DeclaresFunction layers) (parent : SyntaxNode) (isDefinition : Bool) :
    introducedBy source parent isDefinition [node] =
      if Hides layers name declared then [] else [callableOf parent isDefinition declared] := by
  have hvisible := functionName?_of_tower htower hname hspelled
  rw [Lowering.introducedBy_singleton, hvisible]
  by_cases hhides : Hides layers name declared
  · have hshows : ¬Shows layers name declared := fun hshows => hfunction.shows_iff.1 hshows hhides
    simp [hhides, hshows]
  · have hshows : Shows layers name declared := hfunction.shows_iff.2 hhides
    simp [hhides, hshows]

/-- A declared function is lowered under its name, whatever layers are around it and in whatever
order, except for those that hide it. Its fellows in the declaration do not matter. -/
theorem lower_of_declaresFunction (htower : Tower layers node name)
    (hname : name.kind ∈ nameKinds) (hspelled : spelledName? source name = some declared)
    (hfunction : DeclaresFunction layers) :
    (functionName? source node =
      if Hides layers name declared then none else some declared) ∧
    (∀ (definition : SyntaxNode) (owner : Option String),
      definition.kind = .functionDefinition → definition.child? .declarator = some node →
        callables (lower source definition owner) =
          if Hides layers name declared then [] else [callableOf definition true declared]) ∧
    (∀ (declaration : SyntaxNode) (owner : Option String) (before after : List SyntaxNode),
      declaration.kind ∈ declaring →
        declaration.childrenIn .declarator = before ++ node :: after →
          callables (lower source declaration owner) =
            (declaration.definedType?.toList.flatMap fun type =>
              callables (lower source type none)) ++
            introducedBy source declaration false before ++
            (if Hides layers name declared then [] else [callableOf declaration false declared]) ++
            introducedBy source declaration false after) := by
  have hintroduced := introducedBy_of_declaresFunction htower hname hspelled hfunction
  refine ⟨?_, ?_, ?_⟩
  · rw [functionName?_of_tower htower hname hspelled, ← ite_not]
    exact if_congr (by rw [hfunction.shows_iff, not_not]) rfl rfl
  · intro definition owner hkind hnode
    rw [Lowering.callables_lower_definition source hkind, hnode]
    exact hintroduced definition true
  · intro declaration owner before after hkind hnodes
    rw [Lowering.callables_lower_declaration source hkind, hnodes, ← List.singleton_append,
      Lowering.introducedBy_append, Lowering.introducedBy_append, hintroduced declaration false]
    simp only [List.append_assoc]

/-- `int (*Pick(int))(double) {}` -/
def pickSource : ByteArray := "int (*Pick(int))(double) \x7b\x7d".toUTF8

def pickName : SyntaxNode :=
  { SyntaxNode.blank with
    kind := .identifier, field := some .declarator, start := 6, stop := 10 }

/-- The name with the layers around it that are inside the parentheses. -/
def pickInside : SyntaxNode :=
  { SyntaxNode.blank with
    kind := .pointerDeclarator
    start := 5
    stop := 15
    children :=
      [{ SyntaxNode.blank with
         kind := .functionDeclarator
         field := some .declarator
         start := 6
         stop := 15
         children := [pickName] }] }

def pickDeclarator : SyntaxNode :=
  { SyntaxNode.blank with
    kind := .functionDeclarator
    field := some .declarator
    start := 4
    stop := 24
    children :=
      [{ SyntaxNode.blank with
         kind := .parenthesizedDeclarator
         field := some .declarator
         start := 4
         stop := 16
         children := [pickInside] }] }

def pickDefinition : SyntaxNode :=
  { SyntaxNode.blank with
    kind := .functionDefinition
    stop := 27
    children := [pickDeclarator] }

theorem lower_of_declaresFunction_pick :
    functionName? pickSource pickDeclarator = some (.ofForm .plain "Pick") ∧
      callables (lower pickSource pickDefinition none) =
        [{ name := "Pick", form := .plain, line := 1, isDefinition := true }] := by
  have htower :
      Tower [.function, .parenthesized, .pointer, .function] pickDeclarator pickName :=
    .wrap ⟨rfl, rfl⟩ (.wrap ⟨rfl, rfl⟩ (.wrap ⟨rfl, rfl⟩ (.wrap ⟨rfl, rfl⟩ (.bare pickName))))
  have hspelled : spelledName? pickSource pickName = some (.ofForm .plain "Pick") := by
    decide +kernel
  obtain ⟨hname, hdefinition, -⟩ :=
    lower_of_declaresFunction htower (by decide) hspelled (by decide)
  exact ⟨hname, hdefinition pickDefinition none rfl rfl⟩

/-- `int g [[gnu::pure]] ();` -/
def pureSource : ByteArray := "int g [[gnu::pure]] ();".toUTF8

def pureName : SyntaxNode :=
  { SyntaxNode.blank with kind := .identifier, start := 4, stop := 5 }

/-- The name with its attributes, around which the function layer stands. -/
def pureInside : SyntaxNode :=
  { SyntaxNode.blank with
    kind := .attributedDeclarator
    field := some .declarator
    start := 4
    stop := 19
    children :=
      [pureName,
        { SyntaxNode.blank with
          kind := .other "attribute_declaration", start := 6, stop := 19 }] }

def pureDeclarator : SyntaxNode :=
  { SyntaxNode.blank with
    kind := .functionDeclarator
    field := some .declarator
    start := 4
    stop := 22
    children := [pureInside] }

theorem not_forall_functionName?_of_declaresFunction :
    ¬∀ (source : ByteArray) (layers : List Layer) (node name : SyntaxNode)
        (declared : DeclaredName),
      Tower layers node name → name.kind ∈ nameKinds →
        spelledName? source name = some declared → DeclaresFunction layers →
          functionName? source node = some declared := by
  intro hall
  have hattributed : Layer.attributed.Around pureInside pureName :=
    ⟨rfl, rfl, [_], List.cons_ne_nil _ _, rfl, by simp⟩
  have htower : Tower [.function, .attributed] pureDeclarator pureName :=
    .wrap ⟨rfl, rfl⟩ (.wrap hattributed (.bare pureName))
  have hspelled : spelledName? pureSource pureName = some (.ofForm .plain "g") := by
    decide +kernel
  have hnone : functionName? pureSource pureDeclarator = none := by
    rw [functionName?_function ⟨rfl, rfl⟩, hattributed.spelledName?_eq_none,
      functionName?_attributed hattributed]
    rfl
  have hsome := hall _ _ _ _ _ htower (by decide) hspelled (by decide)
  rw [hnone] at hsome
  cases hsome

end NamingCheck.Declarator
