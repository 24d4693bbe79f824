import NamingCheck.Entity.Basic

/-!
# Entities that fit together

The marks of an entity say what it stands in, so they have to agree with the kind of its parent. The
kind of an entity in turn limits what it may hold and whether it can be a mere declaration.
-/

namespace NamingCheck.Entity

open OrderedTree (preorder preorder_eq mem_preorder_iff)

def leafKinds : List Kind :=
  [.function, .memberFunction, .constructor, .destructor, .conversionOperator, .enumType]

def definingKinds : List Kind :=
  [.file, .namespaceScope, .template, .friend, .languageLinkage]

/-- The kinds that hold members without marking them. -/
def scopeKinds : List Kind :=
  [.file, .namespaceScope, .classType, .languageLinkage]

/-- An entity agrees with what it holds. -/
structure Coherent (entity : Entity) : Prop where
  children_of_leaf : entity.kind ∈ leafKinds → entity.children = []
  children_of_declaration : entity.kind = .classType → entity.isDefinition = false →
    entity.children = []
  isDefinition_eq : entity.kind ∈ definingKinds → entity.isDefinition = true
  name_eq : entity.kind = .template ∨ entity.kind = .friend →
    entity.name = ((entity.children.head?.map (·.name)).getD "")
  child_kind : ∀ child ∈ entity.children, child.kind ≠ .file
  child_templated : ∀ child ∈ entity.children, child.isTemplated = true → entity.kind = .template
  child_friended : ∀ child ∈ entity.children, child.isFriended = true ↔ entity.kind = .friend

/-- An entity as it comes from its declaration, before a wrapper marks it. -/
structure Unmarked (entity : Entity) : Prop where
  kind_ne : entity.kind ≠ .file
  isTemplated_eq : entity.isTemplated = false
  isFriended_eq : entity.isFriended = false

variable {entity : Entity}

theorem Coherent.of_leaf (hkind : entity.kind ∈ leafKinds) (hchildren : entity.children = []) :
    Coherent entity := by
  have hother : ∀ kind ∈ leafKinds,
      kind ≠ .classType ∧ kind ∉ definingKinds ∧ kind ≠ .template ∧ kind ≠ .friend := by
    decide
  obtain ⟨hclass, hdefining, htemplate, hfriend⟩ := hother _ hkind
  have hnone (child : Entity) : child ∉ entity.children := by
    rw [hchildren]
    exact List.not_mem_nil
  exact
    { children_of_leaf := fun _ => hchildren
      children_of_declaration := fun _ _ => hchildren
      isDefinition_eq := fun hmem => absurd hmem hdefining
      name_eq := fun hwrapper => (hwrapper.elim htemplate hfriend).elim
      child_kind := fun child hchild => absurd hchild (hnone child)
      child_templated := fun child hchild => absurd hchild (hnone child)
      child_friended := fun child hchild => absurd hchild (hnone child) }

/-- Only a class may be a scope that is merely declared, and then it holds nothing. -/
theorem Coherent.of_scope (hkind : entity.kind ∈ scopeKinds)
    (hdefinition : entity.isDefinition = true ∨ entity.kind = .classType ∧ entity.children = [])
    (hchildren : ∀ child ∈ entity.children, Unmarked child) : Coherent entity := by
  have hother : ∀ kind ∈ scopeKinds, kind ∉ leafKinds ∧ kind ≠ .template ∧ kind ≠ .friend := by
    decide
  obtain ⟨hleaf, htemplate, hfriend⟩ := hother _ hkind
  refine ⟨fun hmem => absurd hmem hleaf, fun _ hfalse => ?_, fun hdefining => ?_,
    fun hwrapper => (hwrapper.elim htemplate hfriend).elim,
    fun child hchild => (hchildren child hchild).kind_ne, fun child hchild htrue => ?_,
    fun child hchild => ?_⟩
  · rcases hdefinition with htrue | ⟨-, hnil⟩
    · rw [htrue] at hfalse
      cases hfalse
    · exact hnil
  · rcases hdefinition with htrue | ⟨hclass, -⟩
    · exact htrue
    · rw [hclass] at hdefining
      exact absurd hdefining (by decide)
  · rw [(hchildren child hchild).isTemplated_eq] at htrue
    cases htrue
  · rw [(hchildren child hchild).isFriended_eq]
    exact ⟨nofun, fun hkind => absurd hkind hfriend⟩

/-- A template marks some of the entities that it wraps. -/
theorem Coherent.of_template (hkind : entity.kind = .template)
    (hdefinition : entity.isDefinition = true)
    (hname : entity.name = ((entity.children.head?.map (·.name)).getD ""))
    (hchildren : ∀ child ∈ entity.children, child.kind ≠ .file ∧ child.isFriended = false) :
    Coherent entity := by
  refine ⟨fun hleaf => ?_, fun hclass _ => ?_, fun _ => hdefinition, fun _ => hname,
    fun child hchild => (hchildren child hchild).1, fun _ _ _ => hkind, fun child hchild => ?_⟩
  · rw [hkind] at hleaf
    exact absurd hleaf (by decide)
  · rw [hkind] at hclass
    cases hclass
  · rw [(hchildren child hchild).2, hkind]
    exact ⟨nofun, nofun⟩

/-- A friend declaration marks all of the entities that it wraps. -/
theorem Coherent.of_friend (hkind : entity.kind = .friend)
    (hdefinition : entity.isDefinition = true)
    (hname : entity.name = ((entity.children.head?.map (·.name)).getD ""))
    (hchildren : ∀ child ∈ entity.children,
      child.kind ≠ .file ∧ child.isTemplated = false ∧ child.isFriended = true) :
    Coherent entity := by
  refine ⟨fun hleaf => ?_, fun hclass _ => ?_, fun _ => hdefinition, fun _ => hname,
    fun child hchild => (hchildren child hchild).1, fun child hchild htrue => ?_,
    fun child hchild => ?_⟩
  · rw [hkind] at hleaf
    exact absurd hleaf (by decide)
  · rw [hkind] at hclass
    cases hclass
  · rw [(hchildren child hchild).2.1] at htrue
    cases htrue
  · rw [hkind]
    exact ⟨fun _ => rfl, fun _ => (hchildren child hchild).2.2⟩

/-! ### Whole trees -/

/-- All entities of the tree are coherent and stand on lines that are known. -/
def Sound (Known : UInt32 → Prop) (entity : Entity) : Prop :=
  ∀ below ∈ preorder entity, Coherent below ∧ Known below.line

variable {Known : UInt32 → Prop}

theorem sound_iff :
    Sound Known entity ↔
      Coherent entity ∧ Known entity.line ∧ ∀ child ∈ entity.children, Sound Known child := by
  constructor
  · intro hsound
    obtain ⟨hcoherent, hline⟩ := hsound entity (OrderedTree.self_mem_preorder entity)
    refine ⟨hcoherent, hline, fun child hchild below hbelow => ?_⟩
    exact hsound below (OrderedTree.mem_preorder_of_mem_children hchild hbelow)
  · rintro ⟨hcoherent, hline, hchildren⟩ below hbelow
    rcases mem_preorder_iff.1 hbelow with rfl | ⟨child, hchild, hmem⟩
    · exact ⟨hcoherent, hline⟩
    · exact hchildren child hchild below hmem

theorem Sound.of_leaf (hkind : entity.kind ∈ leafKinds) (hchildren : entity.children = [])
    (hline : Known entity.line) : Sound Known entity := by
  refine sound_iff.2 ⟨.of_leaf hkind hchildren, hline, fun child hchild => ?_⟩
  rw [hchildren] at hchild
  cases hchild

theorem Sound.asTemplated (hsound : Sound Known entity) : Sound Known entity.asTemplated := by
  obtain ⟨hcoherent, hline, hchildren⟩ := sound_iff.1 hsound
  exact sound_iff.2 ⟨{ hcoherent with }, hline, hchildren⟩

theorem Sound.asFriended (hsound : Sound Known entity) : Sound Known entity.asFriended := by
  obtain ⟨hcoherent, hline, hchildren⟩ := sound_iff.1 hsound
  exact sound_iff.2 ⟨{ hcoherent with }, hline, hchildren⟩

end NamingCheck.Entity
