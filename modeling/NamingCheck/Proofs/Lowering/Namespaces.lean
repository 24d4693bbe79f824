import NamingCheck.Proofs.Lowering.Wrapping
import NamingCheck.Proofs.Text.Parts

/-!
# Nested namespaces

A namespace definition whose name is cut by double colons stands for one namespace per segment, each
around the next. All of them stand on the line of the definition, and only the innermost has
members: what the body declares, which is no longer inside of any class.
-/

namespace NamingCheck.Lowering

open Text (CutAtScopes IsCore countScopes)

def inlineMark : List Char := "inline ".toList

/-- The name that a segment stands for. Blanks at the ends do not count; neither does the mark of an
inline namespace, behind which there may be more blanks. -/
inductive SegmentName (segment : List Char) : String → Prop
  | plain {name : List Char} (hcore : IsCore segment name) (hmark : ¬inlineMark <+: name) :
      SegmentName segment (String.ofList name)
  | afterMark {marked name : List Char} (hcore : IsCore segment (inlineMark ++ marked))
      (hname : IsCore marked name) : SegmentName segment (String.ofList name)

def namespaceOn (line : UInt32) (name : String) (children : List Entity) : Entity where
  kind := .namespaceScope
  name := name
  isTemplated := false
  isFriended := false
  isDefinition := true
  line := line
  children := children

/-- One namespace for each name, from the outside in, each the only child of the one before. -/
inductive Nested (line : UInt32) (members : List Entity) : List String → Entity → Prop
  | innermost (name : String) : Nested line members [name] (namespaceOn line name members)
  | around (name : String) {names : List String} {inner : Entity}
      (hinner : Nested line members names inner) :
      Nested line members (name :: names) (namespaceOn line name [inner])

theorem nested_namespaceChain (line : UInt32) (members : List Entity) (name : String)
    (names : List String) :
    ∃ chain, namespaceChain line members (name :: names) = [chain] ∧
      Nested line members (name :: names) chain := by
  induction names generalizing name with
  | nil => exact ⟨_, rfl, .innermost name⟩
  | cons next names ih =>
      obtain ⟨inner, hchain, hinner⟩ := ih next
      refine ⟨namespaceOn line name [inner], ?_, .around name hinner⟩
      rw [namespaceChain, hchain]
      rfl

theorem segmentName_namespaceSegment (segment : List Char) :
    SegmentName segment (namespaceSegment segment) := by
  have hcore := Text.isCore_trim segment
  change SegmentName segment
    (String.ofList (Text.trim (Text.without inlineMark (Text.trim segment))))
  by_cases hmark : inlineMark <+: Text.trim segment
  · obtain ⟨marked, hmarked⟩ := hmark
    rw [← hmarked] at hcore ⊢
    rw [Text.without_append]
    exact .afterMark hcore (Text.isCore_trim marked)
  · rw [Text.without_of_not_prefix hmark,
      Text.trim_of_not_blank hcore.head_not_blank hcore.last_not_blank]
    exact .plain hcore hmark

/-- A definition without a name is read as one with an empty name. -/
theorem namespaceNames_eq (source : ByteArray) (node : SyntaxNode) :
    namespaceNames source node =
      (Text.splitScopes (((node.child? .name).map (·.chars source)).getD [])).map
        namespaceSegment := by
  rw [namespaceNames]
  cases node.child? .name with
  | none => rfl
  | some name => rfl

theorem lower_namespaceDefinition (source : ByteArray) (node : SyntaxNode) (owner : Option String)
    (hkind : node.kind = .namespaceDefinition) :
    let text := ((node.child? .name).map (·.chars source)).getD []
    let members := node.memberNodes.flatMap (lower source · none)
    ∃ segments names chain,
      lower source node owner = [chain] ∧
      CutAtScopes text segments ∧
      List.Forall₂ SegmentName segments names ∧
      names.length = countScopes text + 1 ∧
      Nested node.line members names chain ∧
      ∀ policy : Policy, policy.verdicts chain = policy.forestVerdicts members := by
  intro text members
  have hlower : lower source node owner =
      namespaceChain node.line members ((Text.splitScopes text).map namespaceSegment) := by
    rw [lower_eq, hkind, ← namespaceNames_eq]
  have hlength := Text.length_splitScopes text
  obtain ⟨first, others, hsegments⟩ := List.exists_cons_of_length_eq_add_one hlength
  obtain ⟨chain, hchain, hnested⟩ :=
    nested_namespaceChain node.line members (namespaceSegment first) (others.map namespaceSegment)
  rw [← List.map_cons, ← hsegments] at hchain hnested
  refine ⟨Text.splitScopes text, _, chain, hlower.trans hchain,
    Text.cutAtScopes_splitScopes text, ?_, ?_, hnested, fun policy => ?_⟩
  · rw [List.forall₂_map_right_iff, List.forall₂_same]
    exact fun segment _ => segmentName_namespaceSegment segment
  · rw [List.length_map, hlength]
  · rw [← policy.forestVerdicts_singleton, ← hchain, forestVerdicts_namespaceChain]

def nestedSource : ByteArray := "namespace a :: inline  b::c \x7b void F(); \x7d".toUTF8

def nestedFunction : SyntaxNode :=
  { SyntaxNode.blank with
    kind := .declaration
    start := 30
    stop := 39
    children :=
      [{ SyntaxNode.blank with
         kind := .functionDeclarator
         field := some .declarator
         start := 35
         stop := 38
         children :=
           [{ SyntaxNode.blank with
              kind := .identifier, field := some .declarator, start := 35, stop := 36 }] }] }

/-- `namespace a :: inline  b::c { void F(); }` -/
def nestedNamespaces : SyntaxNode :=
  { SyntaxNode.blank with
    kind := .namespaceDefinition
    stop := 41
    children :=
      [{ SyntaxNode.blank with
         kind := .other "nested_namespace_specifier", field := some .name, start := 10, stop := 27 },
       { SyntaxNode.blank with
         kind := .declarationList
         field := some .body
         start := 28
         stop := 41
         children := [nestedFunction] }] }

theorem lower_nestedNamespaces :
    ∃ names chain, lower nestedSource nestedNamespaces none = [chain] ∧ names.length = 3 ∧
      Nested 1 (lower nestedSource nestedFunction none) names chain := by
  obtain ⟨segments, names, chain, hlower, -, -, hlength, hnested, -⟩ :=
    lower_namespaceDefinition nestedSource nestedNamespaces none rfl
  refine ⟨names, chain, hlower, hlength.trans (by decide), ?_⟩
  rw [← List.flatMap_singleton (lower nestedSource · none) nestedFunction]
  exact hnested

end NamingCheck.Lowering
