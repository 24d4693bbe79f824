import NamingCheck.Proofs.Entity.Coherent
import NamingCheck.Proofs.Lowering.Callables

/-!
# The entities of a file fit together

What a node is lowered to bears no marks yet and is sound below. A template or a friend declaration
then marks the entities that it wraps, and only these, so the marks agree with the parents all the
way up to the file. Every line is that of some node.
-/

namespace NamingCheck

open OrderedTree (preorder)

namespace SyntaxNode

theorem one_le_line {node : SyntaxNode} (hrow : node.row < UInt32.size - 1) : 1 ≤ node.line := by
  rw [UInt32.le_iff_toNat_le, line, UInt32.toNat_add, UInt32.toNat_ofNat']
  simp only [UInt32.size, UInt32.reduceToNat] at hrow ⊢
  omega

theorem preorder_subset_of_child? {child node : SyntaxNode} {field : SyntaxField}
    (hchild : node.child? field = some child) : preorder child ⊆ preorder node :=
  fun _ => OrderedTree.mem_preorder_of_mem_children (List.mem_of_find?_eq_some hchild)

theorem preorder_subset_of_mem_namedChildren {child node : SyntaxNode}
    (hchild : child ∈ node.namedChildren) : preorder child ⊆ preorder node :=
  fun _ => OrderedTree.mem_preorder_of_mem_children (List.mem_filter.1 hchild).1

end SyntaxNode

namespace Lowering

open Entity (Coherent Sound Unmarked)

theorem LastHeader.preorder_subset {node last : SyntaxNode} (hlast : LastHeader node last) :
    preorder last ⊆ preorder node := by
  induction hlast with
  | here => exact List.Subset.refl _
  | inside hnested _ ih =>
      have hmem := List.mem_of_find?_eq_some hnested
      exact List.Subset.trans ih (SyntaxNode.preorder_subset_of_mem_namedChildren hmem)

theorem Step.preorder_subset {node child : SyntaxNode} (hstep : Step node child) :
    preorder child ⊆ preorder node := by
  cases hstep with
  | through _ hchild => exact SyntaxNode.preorder_subset_of_mem_namedChildren hchild
  | member _ hbody hchild =>
      exact List.Subset.trans (SyntaxNode.preorder_subset_of_mem_namedChildren hchild)
        (SyntaxNode.preorder_subset_of_child? hbody)
  | linked _ hbody => exact SyntaxNode.preorder_subset_of_child? hbody
  | defined _ htype _ _ => exact SyntaxNode.preorder_subset_of_child? htype
  | templated _ hlast hchild _ =>
      exact List.Subset.trans (SyntaxNode.preorder_subset_of_mem_namedChildren hchild)
        hlast.preorder_subset

/-- What a node is lowered to: no marks yet, and all that is below fits together. -/
structure Settled (Known : UInt32 → Prop) (entity : Entity) : Prop where
  unmarked : Unmarked entity
  sound : Sound Known entity

variable {Known : UInt32 → Prop} {source : ByteArray} {node : SyntaxNode}

/-! ### One entity -/

theorem mem_leafKinds_of_form? {kind : Entity.Kind} {form : NameForm}
    (hform : kind.form? = some form) : kind ∈ Entity.leafKinds := by
  cases kind
  case function | memberFunction | constructor | destructor | conversionOperator => decide
  all_goals cases hform

theorem settled_callableEntity (hline : Known node.line) (owner : Option String)
    (declared : DeclaredName) :
    Settled Known (callableEntity node owner declared) ∧
      Settled Known (callableEntity node owner declared).asDeclaration := by
  have hkind : (callableEntity node owner declared).kind ∈ Entity.leafKinds :=
    mem_leafKinds_of_form? (form?_callableKind declared owner _)
  have hfile : (callableEntity node owner declared).kind ≠ .file := by
    intro hfile
    rw [hfile] at hkind
    exact absurd hkind (by decide)
  exact ⟨⟨⟨hfile, rfl, rfl⟩, .of_leaf hkind rfl hline⟩,
    ⟨⟨hfile, rfl, rfl⟩, .of_leaf hkind rfl hline⟩⟩

theorem settled_enumEntity (hline : Known node.line) : Settled Known (enumEntity source node) := by
  have hkind : Entity.Kind.enumType ∈ Entity.leafKinds := by decide
  have hfile : Entity.Kind.enumType ≠ .file := by decide
  rw [enumEntity]
  split_ifs <;> exact ⟨⟨hfile, rfl, rfl⟩, .of_leaf hkind rfl hline⟩

/-! ### Scopes and wrappers -/

variable {members inner : List Entity}

theorem settled_scope {entity : Entity} (hunmarked : Unmarked entity)
    (hkind : entity.kind ∈ Entity.scopeKinds)
    (hdefinition : entity.isDefinition = true ∨ entity.kind = .classType ∧ entity.children = [])
    (hline : Known entity.line) (hchildren : ∀ child ∈ entity.children, Settled Known child) :
    Settled Known entity := by
  have hcoherent : Coherent entity :=
    .of_scope hkind hdefinition fun child hchild => (hchildren child hchild).unmarked
  exact ⟨hunmarked, Entity.sound_iff.2
    ⟨hcoherent, hline, fun child hchild => (hchildren child hchild).sound⟩⟩

theorem settled_namespaceChain {line : UInt32} (hline : Known line)
    (hmembers : ∀ member ∈ members, Settled Known member) (names : List String) :
    ∀ entity ∈ namespaceChain line members names, Settled Known entity := by
  have hkind : Entity.Kind.namespaceScope ∈ Entity.scopeKinds := by decide
  have hfile : Entity.Kind.namespaceScope ≠ .file := by decide
  induction names with
  | nil => exact hmembers
  | cons name names ih =>
      intro entity hmem
      rw [namespaceChain, List.mem_singleton] at hmem
      subst hmem
      exact settled_scope ⟨hfile, rfl, rfl⟩ hkind (Or.inl rfl) hline ih

theorem settled_linkageEntity (hline : Known node.line)
    (hmembers : ∀ member ∈ members, Settled Known member) :
    Settled Known (linkageEntity source node members) := by
  have hkind : Entity.Kind.languageLinkage ∈ Entity.scopeKinds := by decide
  have hfile : Entity.Kind.languageLinkage ≠ .file := by decide
  exact settled_scope ⟨hfile, rfl, rfl⟩ hkind (Or.inl rfl) hline hmembers

/-- A class that is merely declared has no body and so no members. -/
theorem settled_classEntity (hline : Known node.line)
    (hmembers : ∀ member ∈ members, Settled Known member)
    (hbody : node.child? .body = none → members = []) :
    Settled Known (classEntity source node members) := by
  have hkind : Entity.Kind.classType ∈ Entity.scopeKinds := by decide
  have hfile : Entity.Kind.classType ≠ .file := by decide
  rw [classEntity]
  cases hdefined : node.child? .body with
  | some body => exact settled_scope ⟨hfile, rfl, rfl⟩ hkind (Or.inl rfl) hline hmembers
  | none =>
      exact settled_scope ⟨hfile, rfl, rfl⟩ hkind (Or.inr ⟨rfl, hbody hdefined⟩) hline hmembers

/-- An entity inside of a template, which may have been marked. -/
structure Templatable (Known : UInt32 → Prop) (entity : Entity) : Prop where
  kind_ne : entity.kind ≠ .file
  isFriended_eq : entity.isFriended = false
  sound : Sound Known entity

theorem Settled.templatable {entity : Entity} (hsettled : Settled Known entity) :
    Templatable Known entity :=
  ⟨hsettled.unmarked.kind_ne, hsettled.unmarked.isFriended_eq, hsettled.sound⟩

theorem templatable_map_asTemplated (hinner : ∀ entity ∈ inner, Settled Known entity) :
    ∀ entity ∈ inner.map Entity.asTemplated, Templatable Known entity := by
  rw [List.forall_mem_map]
  intro entity hmem
  obtain ⟨hkind, hfriended, hsound⟩ := (hinner entity hmem).templatable
  exact ⟨hkind, hfriended, hsound.asTemplated⟩

theorem templatable_markTemplated {layers : Nat} {child : SyntaxNode}
    (hinner : ∀ entity ∈ inner, Settled Known entity) :
    ∀ entity ∈ markTemplated layers child inner, Templatable Known entity := by
  rw [markTemplated]
  split_ifs
  · exact templatable_map_asTemplated hinner
  · exact fun entity hmem => (hinner entity hmem).templatable

theorem settled_template {line : UInt32} (hline : Known line)
    (hinner : ∀ entity ∈ inner, Templatable Known entity) :
    Settled Known (Entity.around .template inner line) := by
  have hcoherent : Coherent (Entity.around .template inner line) :=
    .of_template rfl rfl rfl fun entity hmem =>
      ⟨(hinner entity hmem).kind_ne, (hinner entity hmem).isFriended_eq⟩
  have hfile : Entity.Kind.template ≠ .file := by decide
  exact ⟨⟨hfile, rfl, rfl⟩, Entity.sound_iff.2
    ⟨hcoherent, hline, fun entity hmem => (hinner entity hmem).sound⟩⟩

theorem settled_friend {line : UInt32} (hline : Known line)
    (hinner : ∀ entity ∈ inner, Settled Known entity) :
    Settled Known (Entity.around .friend (inner.map Entity.asFriended) line) := by
  have hmarked : ∀ entity ∈ inner.map Entity.asFriended,
      entity.kind ≠ .file ∧ entity.isTemplated = false ∧ entity.isFriended = true := by
    rw [List.forall_mem_map]
    intro entity hmem
    have hunmarked := (hinner entity hmem).unmarked
    exact ⟨hunmarked.kind_ne, hunmarked.isTemplated_eq, rfl⟩
  have hsound : ∀ entity ∈ inner.map Entity.asFriended, Sound Known entity := by
    rw [List.forall_mem_map]
    exact fun entity hmem => (hinner entity hmem).sound.asFriended
  have hfile : Entity.Kind.friend ≠ .file := by decide
  exact ⟨⟨hfile, rfl, rfl⟩, Entity.sound_iff.2 ⟨.of_friend rfl rfl rfl hmarked, hline, hsound⟩⟩

/-! ### One step, and all steps -/

theorem settled_of_mem_declaredCallables (hline : Known node.line) (owner : Option String) :
    ∀ entity ∈ declaredCallables source node owner, Settled Known entity := by
  rw [declaredCallables, List.forall_mem_map]
  intro declared _
  exact (settled_callableEntity hline owner declared).2

theorem settled_of_mem_definedCallable? (hline : Known node.line) (owner : Option String) :
    ∀ entity ∈ (definedCallable? source node owner).toList, Settled Known entity := by
  intro entity hmem
  obtain ⟨declared, -, rfl⟩ := Option.map_eq_some_iff.1 (Option.mem_toList.1 hmem)
  exact (settled_callableEntity hline owner declared).1

theorem settled_lower_step (hline : Known node.line)
    (hsteps : ∀ child ∈ steps node, ∀ owner, ∀ entity ∈ lower source child owner,
      Settled Known entity) (owner : Option String) :
    ∀ entity ∈ lower source node owner, Settled Known entity := by
  have hall (inner : Option String) :
      ∀ entity ∈ (steps node).flatMap (lower source · inner), Settled Known entity := by
    intro entity hmem
    obtain ⟨child, hchild, hentity⟩ := List.mem_flatMap.1 hmem
    exact hsteps child hchild inner entity hentity
  have hdeclared : ∀ entity ∈ (steps node).flatMap (lower source · none) ++
      declaredCallables source node owner, Settled Known entity := by
    rw [List.forall_mem_append]
    exact ⟨hall none, settled_of_mem_declaredCallables hline owner⟩
  -- Kind by kind: each puts what its steps lead to into one of the entities above.
  rw [lower_eq]
  rw [steps] at hall hdeclared hsteps
  cases hkind : node.kind <;> rw [hkind] at hall hdeclared hsteps
  case functionDefinition => exact settled_of_mem_definedCallable? hline owner
  case declaration | fieldDeclaration => exact hdeclared
  case typeDefinition => exact hall none
  case namespaceDefinition => exact settled_namespaceChain hline (hall none) _
  case linkageSpecification =>
    rw [List.forall_mem_singleton]
    exact settled_linkageEntity hline (hall owner)
  case classSpecifier | structSpecifier | unionSpecifier =>
    rw [List.forall_mem_singleton]
    refine settled_classEntity hline (hall _) fun hbody => ?_
    rw [SyntaxNode.memberNodes, hbody]
    rfl
  case enumSpecifier =>
    rw [List.forall_mem_singleton]
    exact settled_enumEntity hline
  case templateInstantiation =>
    rw [List.forall_mem_singleton]
    exact settled_template hline (templatable_map_asTemplated hdeclared)
  case templateDeclaration =>
    rw [List.forall_mem_singleton]
    refine settled_template hline fun entity hmem => ?_
    obtain ⟨child, hchild, hentity⟩ := List.mem_flatMap.1 hmem
    exact templatable_markTemplated (hsteps child hchild owner) entity hentity
  case friendDeclaration =>
    rw [List.forall_mem_singleton]
    exact settled_friend hline (hall none)
  case declarationList | fieldDeclarationList | preprocIf | preprocIfdef | preprocElse |
      preprocElif | preprocElifdef | error =>
    exact hall owner
  -- No other node is lowered to anything.
  all_goals
    intro entity hmem
    cases hmem

theorem settled_of_mem_lower (node : SyntaxNode) (owner : Option String)
    (hlines : ∀ place ∈ preorder node, Known place.line) :
    ∀ entity ∈ lower source node owner, Settled Known entity := by
  -- Along the recursion of the lowering, whose steps lead to smaller nodes below this one.
  refine settled_lower_step (hlines node (OrderedTree.self_mem_preorder node)) ?_ owner
  intro child hchild owner
  have hbelow := (mem_steps_iff.1 hchild).preorder_subset
  exact settled_of_mem_lower child owner fun place hplace => hlines place (hbelow hplace)
termination_by node.size
decreasing_by exact size_lt_of_mem_steps hchild

theorem sound_fileEntity (source : ByteArray) (name : String) (root : SyntaxNode) (hone : Known 1)
    (hlines : ∀ place ∈ preorder root, Known place.line) :
    Sound Known (fileEntity source name root) := by
  have hkind : Entity.Kind.file ∈ Entity.scopeKinds := by decide
  have hchildren : ∀ child ∈ (fileEntity source name root).children, Settled Known child := by
    intro entity hmem
    obtain ⟨child, hchild, hentity⟩ := List.mem_flatMap.1 hmem
    have hbelow := SyntaxNode.preorder_subset_of_mem_namedChildren hchild
    exact settled_of_mem_lower child none (fun place hplace => hlines place (hbelow hplace))
      entity hentity
  have hcoherent : Coherent (fileEntity source name root) :=
    .of_scope hkind (Or.inl rfl) fun child hchild => (hchildren child hchild).unmarked
  exact Entity.sound_iff.2 ⟨hcoherent, hone, fun child hchild => (hchildren child hchild).sound⟩

theorem coherent_of_mem_fileEntity {name : String} {root : SyntaxNode} {entity : Entity}
    (hmem : entity ∈ preorder (fileEntity source name root)) : Coherent entity := by
  have hsound : Sound (fun _ => True) (fileEntity source name root) :=
    sound_fileEntity source name root trivial fun _ _ => trivial
  exact (hsound entity hmem).1

/-- In the entity tree of a file every entity agrees with what it holds, only the root is a file,
and every line is at least one if the rows of the syntax tree do not run over. -/
theorem fileEntity_coherent (source : ByteArray) (name : String) (root : SyntaxNode) :
    let file := fileEntity source name root
    (file.kind = .file ∧ file.line = 1 ∧ file.isTemplated = false ∧ file.isFriended = false) ∧
    (∀ entity ∈ preorder file, Coherent entity) ∧
    ((∀ node ∈ preorder root, node.row < UInt32.size - 1) →
      ∀ entity ∈ preorder file, 1 ≤ entity.line) := by
  intro file
  refine ⟨⟨rfl, rfl, rfl, rfl⟩, fun entity hmem => coherent_of_mem_fileEntity hmem,
    fun hrows entity hmem => ?_⟩
  have hlines (place : SyntaxNode) (hplace : place ∈ preorder root) : 1 ≤ place.line :=
    SyntaxNode.one_le_line (hrows place hplace)
  have hsound : Sound (1 ≤ ·) (fileEntity source name root) :=
    sound_fileEntity source name root (by decide) hlines
  exact (hsound entity hmem).2

/-- A class with a template of friends: `struct Box {`, and on the rows below
`template <class T>`, `friend struct Pal;` and `};`. -/
def befriendingSource : ByteArray :=
  "struct Box \x7b\ntemplate <class T>\nfriend struct Pal;\n\x7d;".toUTF8

def befriendedClass : SyntaxNode :=
  { SyntaxNode.blank with
    kind := .structSpecifier
    row := 2
    start := 39
    stop := 49
    children :=
      [{ SyntaxNode.blank with
         kind := .other "type_identifier"
         field := some .name
         row := 2
         start := 46
         stop := 49 }] }

def befriendingHeader : SyntaxNode :=
  { SyntaxNode.blank with
    kind := .templateDeclaration
    row := 1
    start := 13
    stop := 50
    children :=
      [{ SyntaxNode.blank with
         kind := .friendDeclaration
         row := 2
         start := 32
         stop := 50
         children := [befriendedClass] }] }

def befriendingUnit : SyntaxNode :=
  { SyntaxNode.blank with
    stop := 53
    children :=
      [{ SyntaxNode.blank with
         kind := .structSpecifier
         stop := 52
         children :=
           [{ SyntaxNode.blank with
              kind := .other "type_identifier", field := some .name, start := 7, stop := 10 },
            { SyntaxNode.blank with
              kind := .fieldDeclarationList
              field := some .body
              start := 11
              stop := 52
              children := [befriendingHeader] }] }] }

/-- The file, the class, the template, the friend and the befriended class. -/
theorem fileEntity_coherent_befriending :
    (fileEntity befriendingSource "a.cpp" befriendingUnit).count = 5 ∧
      (∀ node ∈ preorder befriendingUnit, node.row < UInt32.size - 1) ∧
      ∀ entity ∈ preorder (fileEntity befriendingSource "a.cpp" befriendingUnit),
        Coherent entity ∧ 1 ≤ entity.line := by
  obtain ⟨-, hcoherent, hlines⟩ := fileEntity_coherent befriendingSource "a.cpp" befriendingUnit
  have hrows : ∀ node ∈ preorder befriendingUnit, node.row < UInt32.size - 1 := by
    decide +kernel
  have hcount : (fileEntity befriendingSource "a.cpp" befriendingUnit).count = 5 := by
    decide +kernel
  exact ⟨hcount, hrows, fun entity hmem => ⟨hcoherent entity hmem, hlines hrows entity hmem⟩⟩

end Lowering

end NamingCheck
