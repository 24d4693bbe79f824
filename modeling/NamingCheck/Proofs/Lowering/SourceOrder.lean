import Mathlib.Data.List.Flatten
import NamingCheck.Proofs.Lowering.Coherent
import NamingCheck.Proofs.Run.ErrorLine
import NamingCheck.Proofs.Verdict.Report

/-!
# Entities come in source order

An entity stands on the line of the node it is made of, and the entities inside it are made of nodes
behind that one. So the entities in pre-order are made of nodes whose rows never descend if those of
the syntax tree do not. The one exception is a declaration that defines a type and declares
functions too: its functions come last and stand on its first line.
-/

namespace NamingCheck

open OrderedTree (preorder preorder_eq)

/-! ### Lines of forests -/

namespace Entity

/-- The lines on which the entities of a forest stand, in pre-order. -/
def lines (entities : List Entity) : List UInt32 :=
  (entities.flatMap preorder).map (·.line)

theorem lines_append (left right : List Entity) :
    lines (left ++ right) = lines left ++ lines right := by
  rw [lines, List.flatMap_append, List.map_append]
  rfl

theorem lines_flatMap {α : Type} (items : List α) (f : α → List Entity) :
    lines (items.flatMap f) = items.flatMap fun item => lines (f item) := by
  rw [lines, List.flatMap_assoc, List.map_flatMap]
  rfl

theorem lines_singleton (entity : Entity) :
    lines [entity] = entity.line :: lines entity.children := by
  rw [lines, List.flatMap_singleton, preorder_eq]
  rfl

/-- A change of the entities that touches neither their lines nor what they hold. -/
theorem lines_map {f : Entity → Entity} (hline : ∀ entity, (f entity).line = entity.line)
    (hchildren : ∀ entity, (f entity).children = entity.children) (entities : List Entity) :
    lines (entities.map f) = lines entities := by
  have hsplit (entities : List Entity) :
      lines entities = entities.flatMap fun entity => entity.line :: lines entity.children := by
    conv => lhs; rw [← List.flatMap_singleton' entities, lines_flatMap]
    exact List.flatMap_congr fun entity _ => lines_singleton entity
  rw [hsplit, hsplit entities, List.flatMap_map]
  simp only [hline, hchildren]

theorem lines_map_asTemplated (entities : List Entity) :
    lines (entities.map asTemplated) = lines entities :=
  lines_map (f := asTemplated) (fun _ => rfl) (fun _ => rfl) entities

theorem lines_map_asFriended (entities : List Entity) :
    lines (entities.map asFriended) = lines entities :=
  lines_map (f := asFriended) (fun _ => rfl) (fun _ => rfl) entities

end Entity

/-! ### Lines in order -/

/-- The lines are those of some of the nodes, on rows that do not descend. -/
def StandsOn (nodes : List SyntaxNode) (lines : List UInt32) : Prop :=
  ∃ origins : List SyntaxNode, lines = origins.map SyntaxNode.line ∧ origins ⊆ nodes ∧
    origins.Pairwise fun earlier later => earlier.row ≤ later.row

namespace StandsOn

variable {nodes more : List SyntaxNode} {lines rest : List UInt32} {node : SyntaxNode}

theorem nil : StandsOn nodes [] :=
  ⟨[], rfl, List.nil_subset _, .nil⟩

theorem mono (hstands : StandsOn nodes lines) (hsubset : nodes ⊆ more) : StandsOn more lines := by
  obtain ⟨origins, hlines, horigins, hrows⟩ := hstands
  exact ⟨origins, hlines, List.Subset.trans horigins hsubset, hrows⟩

theorem append (hleft : StandsOn nodes lines) (hright : StandsOn more rest)
    (hrows : ∀ earlier ∈ nodes, ∀ later ∈ more, earlier.row ≤ later.row) :
    StandsOn (nodes ++ more) (lines ++ rest) := by
  obtain ⟨before, hbefore, hbeforeMem, hbeforeRows⟩ := hleft
  obtain ⟨after, hafter, hafterMem, hafterRows⟩ := hright
  refine ⟨before ++ after, by rw [hbefore, hafter, List.map_append], ?_, ?_⟩
  · exact List.append_subset.2 ⟨List.subset_append_of_subset_left _ hbeforeMem,
      List.subset_append_of_subset_right _ hafterMem⟩
  · refine List.pairwise_append.2 ⟨hbeforeRows, hafterRows, fun earlier hearlier later hlater => ?_⟩
    exact hrows earlier (hbeforeMem hearlier) later (hafterMem hlater)

/-- Any number of entities may stand on the line of one node. -/
theorem replicate (node : SyntaxNode) (count : Nat) :
    StandsOn [node] (List.replicate count node.line) := by
  refine ⟨List.replicate count node, List.map_replicate.symm, ?_, ?_⟩
  · exact List.replicate_subset_singleton count node
  · exact List.pairwise_replicate.2 (Or.inr (Nat.le_refl _))

theorem flatMap {f : SyntaxNode → List UInt32} (hrows : (nodes.flatMap preorder).Pairwise
      fun earlier later : SyntaxNode => earlier.row ≤ later.row)
    (hnodes : ∀ node ∈ nodes, StandsOn (preorder node) (f node)) :
    StandsOn (nodes.flatMap preorder) (nodes.flatMap f) := by
  induction nodes with
  | nil => exact nil
  | cons first rest ih =>
      rw [List.forall_mem_cons] at hnodes
      rw [List.flatMap_cons, List.pairwise_append] at hrows
      exact hnodes.1.append (ih hrows.2.1 hnodes.2) hrows.2.2

end StandsOn

namespace SyntaxNode

variable {node : SyntaxNode}

theorem preorder_eq_cons (node : SyntaxNode) :
    preorder node = node :: node.children.flatMap preorder :=
  preorder_eq node

theorem flatMap_preorder_children_sublist (node : SyntaxNode) :
    (node.children.flatMap preorder).Sublist (preorder node) := by
  rw [preorder_eq_cons]
  exact List.sublist_cons_self _ _

theorem RowsAscend.row_le (hrows : node.RowsAscend) :
    ∀ later ∈ preorder node, node.row ≤ later.row := by
  rw [RowsAscend, preorder_eq_cons, List.pairwise_cons] at hrows
  rw [preorder_eq_cons]
  exact List.forall_mem_cons.2 ⟨Nat.le_refl _, hrows.1⟩

end SyntaxNode

namespace StandsOn

variable {node : SyntaxNode} {lines : List UInt32}

theorem self (node : SyntaxNode) (count : Nat) :
    StandsOn (preorder node) (List.replicate count node.line) :=
  (replicate node count).mono
    (List.cons_subset.2 ⟨OrderedTree.self_mem_preorder node, List.nil_subset _⟩)

/-- What stands on the line of the node itself may come before all that is below it. -/
theorem behind (hrows : node.RowsAscend) (hstands : StandsOn (preorder node) lines)
    (count : Nat) : StandsOn (preorder node) (List.replicate count node.line ++ lines) := by
  have hfront := (replicate node count).append hstands (by simpa using hrows.row_le)
  exact hfront.mono
    (List.cons_subset.2 ⟨OrderedTree.self_mem_preorder node, List.Subset.refl _⟩)

end StandsOn

namespace Policy

open EntityTree (OwesVerdict)

/-- The verdicts in the order in which an observer is shown them. -/
def shown (policy : Policy) (file : String) (root : Entity) : List Verdict :=
  ((policy.check file root fun verdict =>
    (modify (· ++ [verdict]) : StateM (List Verdict) Unit)).run []).2

variable (policy : Policy)

theorem shown_eq (file : String) (root : Entity) :
    policy.shown file root = policy.verdicts root := by
  have hseen (verdicts seen : List Verdict) :
      ((verdicts.forM fun verdict =>
        (modify (· ++ [verdict]) : StateM (List Verdict) Unit)).run seen).2 = seen ++ verdicts := by
    induction verdicts generalizing seen with
    | nil => exact (List.append_nil seen).symm
    | cons verdict rest ih => exact (ih (seen ++ [verdict])).trans (by simp)
  rw [shown, check_eq]
  exact hseen (policy.verdicts root) []

theorem map_line_verdicts_sublist (root : Entity) :
    ((policy.verdicts root).map (·.line)).Sublist ((preorder root).map (·.line)) := by
  have hjudged : ((preorder root).filter fun entity => decide (OwesVerdict entity)).Sublist
      (preorder root) := List.filter_sublist
  rw [verdicts, EntityTree.judged_eq, List.map_map]
  exact hjudged.map Entity.line

end Policy

namespace Lowering

open Declarator (functionName?)
open Entity (lines)

variable (source : ByteArray)

/-- The node defines a class or an enum in its type and declares a function besides. -/
def DefinesAndDeclares (node : SyntaxNode) : Prop :=
  node.kind ∈ declaring ∧ node.definedType?.isSome = true ∧
    ∃ declarator ∈ node.childrenIn .declarator, (functionName? source declarator).isSome = true

instance (node : SyntaxNode) : Decidable (DefinesAndDeclares source node) :=
  inferInstanceAs (Decidable (_ ∧ _ ∧ _))

variable {source} {node : SyntaxNode} {owner : Option String} {members : List Entity}

/-! ### The lines of each entity -/

theorem lines_namespaceChain (line : UInt32) (members : List Entity) (names : List String) :
    lines (namespaceChain line members names) =
      List.replicate names.length line ++ lines members := by
  induction names with
  | nil => rfl
  | cons name names ih =>
      rw [namespaceChain, Entity.lines_singleton]
      change line :: lines (namespaceChain line members names) = _
      rw [ih]
      rfl

theorem lines_linkageEntity :
    lines [linkageEntity source node members] = node.line :: lines members :=
  Entity.lines_singleton _

theorem lines_classEntity :
    lines [classEntity source node members] = node.line :: lines members := by
  rw [classEntity]
  split_ifs <;> exact Entity.lines_singleton _

theorem lines_enumEntity : lines [enumEntity source node] = [node.line] := by
  rw [enumEntity]
  split_ifs <;> exact Entity.lines_singleton _

theorem lines_around (kind : Entity.Kind) (inner : List Entity) (line : UInt32) :
    lines [Entity.around kind inner line] = line :: lines inner :=
  Entity.lines_singleton _

theorem lines_markTemplated (layers : Nat) (child : SyntaxNode) :
    lines (markTemplated layers child members) = lines members := by
  rw [markTemplated]
  split_ifs
  · exact Entity.lines_map_asTemplated members
  · rfl

theorem lines_definedCallable? (source : ByteArray) (node : SyntaxNode) (owner : Option String) :
    ∃ count, lines (definedCallable? source node owner).toList =
      List.replicate count node.line := by
  rw [definedCallable?]
  cases (node.child? .declarator).bind (functionName? source) with
  | none => exact ⟨0, rfl⟩
  | some declared => exact ⟨1, Entity.lines_singleton _⟩

theorem lines_declaredCallables (source : ByteArray) (node : SyntaxNode) (owner : Option String) :
    ∃ count, lines (declaredCallables source node owner) = List.replicate count node.line := by
  rw [declaredCallables]
  generalize (node.childrenIn .declarator).filterMap (functionName? source) = names
  refine ⟨names.length, ?_⟩
  induction names with
  | nil => rfl
  | cons first rest ih =>
      rw [List.map_cons, ← List.singleton_append, Entity.lines_append, ih, Entity.lines_singleton]
      rfl

theorem declaredCallables_eq_nil (hsingle : ¬DefinesAndDeclares source node)
    (hkind : node.kind ∈ declaring) {type : SyntaxNode} (htype : node.definedType? = some type) :
    declaredCallables source node owner = [] := by
  have hnone : (node.childrenIn .declarator).filterMap (functionName? source) = [] := by
    rw [List.filterMap_eq_nil_iff]
    intro declarator hdeclarator
    rw [← Option.not_isSome_iff_eq_none]
    intro hfound
    exact hsingle ⟨hkind, by rw [htype]; rfl, declarator, hdeclarator, hfound⟩
  rw [declaredCallables, hnone]
  rfl

/-! ### One step, and all steps -/

theorem flatMap_preorder_steps_sublist (node : SyntaxNode) :
    ((steps node).flatMap preorder).Sublist (preorder node) :=
  (flatMap_steps_sublist SyntaxNode.flatMap_preorder_children_sublist node).trans
    (SyntaxNode.flatMap_preorder_children_sublist node)

theorem standsOn_steps (hrows : node.RowsAscend)
    (hsteps : ∀ child ∈ steps node, StandsOn (preorder child) (lines (lower source child owner))) :
    StandsOn (preorder node) (lines ((steps node).flatMap (lower source · owner))) := by
  have hsublist := flatMap_preorder_steps_sublist node
  rw [Entity.lines_flatMap]
  exact (StandsOn.flatMap (hrows.sublist hsublist) hsteps).mono hsublist.subset

/-- The functions of a declaration come last, so it must not define a type before them. -/
theorem standsOn_declaring (hsingle : ¬DefinesAndDeclares source node)
    (hkind : node.kind ∈ declaring)
    (hsteps : StandsOn (preorder node) (lines ((steps node).flatMap (lower source · none))))
    (owner : Option String) :
    StandsOn (preorder node)
      (lines ((steps node).flatMap (lower source · none) ++
        declaredCallables source node owner)) := by
  cases hdefined : node.definedType? with
  | some type =>
      rwa [declaredCallables_eq_nil hsingle hkind hdefined, List.append_nil]
  | none =>
      have hother : ∀ kind ∈ declaring, kind ∉ passedThrough ∧ kind ∉ withMembers ∧
          kind ≠ .linkageSpecification ∧ kind ∈ withType := by decide
      obtain ⟨hthrough, hmembers, hlinkage, htype⟩ := hother _ hkind
      obtain ⟨count, hcount⟩ := lines_declaredCallables source node owner
      rw [steps, if_neg hthrough, if_neg hmembers, if_neg hlinkage, if_pos htype, hdefined]
      exact hcount ▸ StandsOn.self node count

/-- One step: the entities of the nodes it leads to come behind what the node itself becomes. -/
theorem standsOn_lower_step (hrows : node.RowsAscend) (hsingle : ¬DefinesAndDeclares source node)
    (hsteps : ∀ child ∈ steps node, ∀ owner,
      StandsOn (preorder child) (lines (lower source child owner))) (owner : Option String) :
    StandsOn (preorder node) (lines (lower source node owner)) := by
  have hpassed (inner : Option String) :
      StandsOn (preorder node) (lines ((steps node).flatMap (lower source · inner))) :=
    standsOn_steps hrows fun child hchild => hsteps child hchild inner
  have hdeclared (hkind : node.kind ∈ declaring) :=
    standsOn_declaring hsingle hkind (hpassed none) owner
  rw [lower_eq]
  rw [steps] at hpassed hdeclared
  cases hkind : node.kind <;> rw [hkind] at hpassed hdeclared
  case functionDefinition =>
    obtain ⟨count, hcount⟩ := lines_definedCallable? source node owner
    exact hcount ▸ StandsOn.self node count
  case declaration | fieldDeclaration => exact hdeclared (by decide)
  case templateInstantiation =>
    change StandsOn _ (lines [Entity.around _ _ _])
    rw [lines_around, Entity.lines_map_asTemplated]
    exact (hdeclared (by decide)).behind hrows 1
  case typeDefinition => exact hpassed none
  case namespaceDefinition =>
    change StandsOn _ (lines (namespaceChain _ _ _))
    rw [lines_namespaceChain]
    exact (hpassed none).behind hrows _
  case linkageSpecification =>
    change StandsOn _ (lines [linkageEntity source node _])
    rw [lines_linkageEntity]
    exact (hpassed owner).behind hrows 1
  case classSpecifier | structSpecifier | unionSpecifier =>
    change StandsOn _ (lines [classEntity source node _])
    rw [lines_classEntity]
    exact (hpassed _).behind hrows 1
  case enumSpecifier =>
    change StandsOn _ (lines [enumEntity source node])
    rw [lines_enumEntity]
    exact StandsOn.self node 1
  case templateDeclaration =>
    change StandsOn _ (lines [Entity.around _ _ _])
    rw [lines_around, Entity.lines_flatMap]
    simp only [lines_markTemplated]
    rw [← Entity.lines_flatMap]
    exact (hpassed owner).behind hrows 1
  case friendDeclaration =>
    change StandsOn _ (lines [Entity.around _ _ _])
    rw [lines_around, Entity.lines_map_asFriended]
    exact (hpassed none).behind hrows 1
  case declarationList | fieldDeclarationList | preprocIf | preprocIfdef | preprocElse |
      preprocElif | preprocElifdef | error =>
    exact hpassed owner
  -- No other node is lowered to anything.
  all_goals exact StandsOn.nil

theorem standsOn_lower (node : SyntaxNode) (hrows : node.RowsAscend)
    (hsingle : ∀ place ∈ preorder node, ¬DefinesAndDeclares source place) (owner : Option String) :
    StandsOn (preorder node) (lines (lower source node owner)) := by
  refine standsOn_lower_step hrows (hsingle node (OrderedTree.self_mem_preorder node)) ?_ owner
  intro child hchild owner
  have hbelow : (preorder child).Sublist (preorder node) :=
    (SyntaxNode.walk_sublist_flatMap_of_mem preorder hchild).trans
      (flatMap_preorder_steps_sublist node)
  exact standsOn_lower child (hrows.sublist hbelow)
    (fun place hplace => hsingle place (hbelow.subset hplace)) owner
termination_by node.size
decreasing_by exact size_lt_of_mem_steps hchild

theorem standsOn_fileEntity (name : String) {root : SyntaxNode} (hrows : root.RowsAscend)
    (hsingle : ∀ node ∈ preorder root, ¬DefinesAndDeclares source node) :
    StandsOn (preorder root) (lines (fileEntity source name root).children) := by
  have hbelow : (root.namedChildren.flatMap preorder).Sublist (preorder root) :=
    (SyntaxNode.flatMap_namedChildren_sublist preorder root).trans
      (SyntaxNode.flatMap_preorder_children_sublist root)
  have hall : ∀ child ∈ root.namedChildren,
      StandsOn (preorder child) (lines (lower source child none)) := by
    intro child hchild
    have hinside := (SyntaxNode.walk_sublist_flatMap_of_mem preorder hchild).trans hbelow
    exact standsOn_lower child (hrows.sublist hinside)
      (fun place hplace => hsingle place (hinside.subset hplace)) none
  change StandsOn _ (lines (root.namedChildren.flatMap fun child => lower source child none))
  rw [Entity.lines_flatMap]
  exact (StandsOn.flatMap (hrows.sublist hbelow) hall).mono hbelow.subset

/-- If the rows of a syntax tree do not descend, neither do those of the nodes of which the
entities are made; and the lines, of the entities as of the verdicts that are shown on them, do not
either, as long as every row has a line. -/
theorem fileEntity_sourceOrder (source : ByteArray) (name : String) {root : SyntaxNode}
    (hrows : root.RowsAscend)
    (hsingle : ∀ node ∈ preorder root, ¬DefinesAndDeclares source node) :
    let file := fileEntity source name root
    (∃ origins : List SyntaxNode,
      (preorder file).map (·.line) = 1 :: origins.map SyntaxNode.line ∧
        origins ⊆ preorder root ∧
        origins.Pairwise fun earlier later => earlier.row ≤ later.row) ∧
    ((∀ node ∈ preorder root, node.row + 1 < UInt32.size) →
      ((preorder file).map (·.line)).Pairwise (· ≤ ·) ∧
        ∀ policy : Policy, ((policy.shown name file).map (·.line)).Pairwise (· ≤ ·)) := by
  intro file
  obtain ⟨origins, hlines, horigins, hascend⟩ := standsOn_fileEntity name hrows hsingle
  have hall : (preorder file).map (·.line) = 1 :: origins.map SyntaxNode.line := by
    rw [← hlines, preorder_eq]
    rfl
  refine ⟨⟨origins, hall, horigins, hascend⟩, fun hbound => ?_⟩
  have hordered : ((preorder file).map (·.line)).Pairwise (· ≤ ·) := by
    rw [hall, List.pairwise_cons, List.pairwise_map]
    constructor
    · rw [List.forall_mem_map]
      intro origin horigin
      exact SyntaxNode.one_le_line (Nat.lt_sub_of_add_lt (hbound origin (horigins horigin)))
    · refine hascend.imp_of_mem fun _ hlater hle => ?_
      exact SyntaxNode.line_le_line hle (hbound _ (horigins hlater))
  refine ⟨hordered, fun policy => ?_⟩
  rw [policy.shown_eq]
  exact hordered.sublist (policy.map_line_verdicts_sublist file)

/-- A namespace `a` with a variable `boxed` of a class that has a function `put`, each on a row of
its own, and behind it a function `draw`. -/
def boxedSource : ByteArray :=
  "namespace a \x7b\nstruct Box \x7b\nvoid put();\n\x7d boxed;\n\x7d\nint draw();\n".toUTF8

/-- The declaration of a function on one row. -/
def boxedFunction (row start stop : Nat) : SyntaxNode :=
  { SyntaxNode.blank with
    kind := .declaration
    row := row
    start := start
    stop := stop + 2
    children :=
      [{ SyntaxNode.blank with
         kind := .functionDeclarator
         field := some .declarator
         row := row
         start := start
         stop := stop + 2
         children :=
           [{ SyntaxNode.blank with
              kind := .identifier
              field := some .declarator
              row := row
              start := start
              stop := stop }] }] }

def boxedClass : SyntaxNode :=
  { SyntaxNode.blank with
    kind := .structSpecifier
    field := some .type
    row := 1
    start := 14
    stop := 40
    children :=
      [{ SyntaxNode.blank with
         kind := .fieldDeclarationList
         field := some .body
         row := 1
         start := 25
         stop := 40
         children := [boxedFunction 2 32 35] }] }

def boxedVariable : SyntaxNode :=
  { SyntaxNode.blank with
    kind := .declaration
    row := 1
    start := 14
    stop := 47
    children :=
      [boxedClass,
        { SyntaxNode.blank with
          kind := .identifier, field := some .declarator, row := 3, start := 41, stop := 46 }] }

def boxedUnit : SyntaxNode :=
  { SyntaxNode.blank with
    stop := 62
    children :=
      [{ SyntaxNode.blank with
         kind := .namespaceDefinition
         stop := 49
         children :=
           [{ SyntaxNode.blank with
              kind := .declarationList
              field := some .body
              start := 12
              stop := 49
              children := [boxedVariable] }] },
        boxedFunction 5 54 58] }

theorem fileEntity_sourceOrder_boxed :
    boxedUnit.RowsAscend ∧ (∀ node ∈ preorder boxedUnit, ¬DefinesAndDeclares boxedSource node) ∧
      let shown := Policy.standard.shown "a.cpp" (fileEntity boxedSource "a.cpp" boxedUnit)
      shown.map (·.name) = ["put", "draw"] ∧ (shown.map (·.line)).Pairwise (· ≤ ·) := by
  have hrows : boxedUnit.RowsAscend := by
    decide +kernel
  have hsingle : ∀ node ∈ preorder boxedUnit, ¬DefinesAndDeclares boxedSource node := by
    decide +kernel
  have hbound : ∀ node ∈ preorder boxedUnit, node.row + 1 < UInt32.size := by
    decide +kernel
  have hnames :
      (Policy.standard.shown "a.cpp" (fileEntity boxedSource "a.cpp" boxedUnit)).map (·.name) =
        ["put", "draw"] := by
    rw [Policy.shown_eq]
    decide +kernel
  obtain ⟨-, hordered⟩ := fileEntity_sourceOrder boxedSource "a.cpp" hrows hsingle
  exact ⟨hrows, hsingle, hnames, (hordered hbound).2 Policy.standard⟩

end Lowering

end NamingCheck
