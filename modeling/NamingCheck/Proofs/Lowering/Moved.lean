import Mathlib.Data.List.Flatten
import NamingCheck.Proofs.Lowering.Coherent
import NamingCheck.Proofs.Run.ErrorLine
import NamingCheck.Proofs.Verdict.Forest

/-!
# Moving a text down

If a text gets something in front of it, all nodes of its syntax tree move by as many bytes and some
number of rows. Every text that is read off a node is read where the node stands, and so stays the
same; every line is that of a node, and so goes up by the number of rows.
-/

namespace NamingCheck

open OrderedTree (preorder preorder_eq)

/-! ### Nodes -/

namespace SyntaxNode

def moved (bytes rows : Nat) : SyntaxNode → SyntaxNode
  | { kind, field, row, start, stop, isNamed, isError, isMissing, hasError, children } =>
      { kind, field, isNamed, isError, isMissing, hasError
        row := row + rows
        start := start + bytes
        stop := stop + bytes
        children := movedAll children }
where
  movedAll : List SyntaxNode → List SyntaxNode
    | [] => []
    | first :: rest => moved bytes rows first :: movedAll rest

variable {bytes rows : Nat} (node : SyntaxNode)

@[simp]
theorem kind_moved : (node.moved bytes rows).kind = node.kind := by
  cases node
  rfl

@[simp]
theorem field_moved : (node.moved bytes rows).field = node.field := by
  cases node
  rfl

@[simp]
theorem row_moved : (node.moved bytes rows).row = node.row + rows := by
  cases node
  rfl

@[simp]
theorem start_moved : (node.moved bytes rows).start = node.start + bytes := by
  cases node
  rfl

@[simp]
theorem stop_moved : (node.moved bytes rows).stop = node.stop + bytes := by
  cases node
  rfl

@[simp]
theorem isNamed_moved : (node.moved bytes rows).isNamed = node.isNamed := by
  cases node
  rfl

@[simp]
theorem isFaulty_moved : (node.moved bytes rows).isFaulty = node.isFaulty := by
  cases node
  rfl

@[simp]
theorem hasError_moved : (node.moved bytes rows).hasError = node.hasError := by
  cases node
  rfl

theorem movedAll_eq_map (nodes : List SyntaxNode) :
    moved.movedAll bytes rows nodes = nodes.map (moved bytes rows) := by
  induction nodes with
  | nil => rfl
  | cons first rest ih => rw [moved.movedAll, ih, List.map_cons]

@[simp]
theorem children_moved :
    (node.moved bytes rows).children = node.children.map (moved bytes rows) := by
  cases node
  exact movedAll_eq_map _

@[simp]
theorem namedChildren_moved :
    (node.moved bytes rows).namedChildren = node.namedChildren.map (moved bytes rows) := by
  rw [namedChildren, children_moved, List.filter_map]
  simp only [Function.comp_def, isNamed_moved, namedChildren]

@[simp]
theorem childrenIn_moved (field : SyntaxField) :
    (node.moved bytes rows).childrenIn field =
      (node.childrenIn field).map (moved bytes rows) := by
  rw [childrenIn, children_moved, List.filter_map]
  simp only [Function.comp_def, field_moved, childrenIn]

@[simp]
theorem child?_moved (field : SyntaxField) :
    (node.moved bytes rows).child? field = (node.child? field).map (moved bytes rows) := by
  rw [child?, children_moved, List.find?_map]
  simp only [Function.comp_def, field_moved, child?]

@[simp]
theorem wrapped?_moved :
    (node.moved bytes rows).wrapped? = node.wrapped?.map (moved bytes rows) := by
  rw [wrapped?, child?_moved, namedChildren_moved, List.getLast?_map, ← Option.map_or, wrapped?]

@[simp]
theorem definedType?_moved :
    (node.moved bytes rows).definedType? = node.definedType?.map (moved bytes rows) := by
  rw [definedType?, child?_moved, definedType?]
  cases node.child? .type with
  | none => rfl
  | some type =>
      simp only [Option.map_some, Option.filter_some, child?_moved, Option.isSome_map, kind_moved]
      split_ifs <;> rfl

@[simp]
theorem memberNodes_moved :
    (node.moved bytes rows).memberNodes = node.memberNodes.map (moved bytes rows) := by
  rw [memberNodes, child?_moved, memberNodes]
  cases node.child? .body with
  | none => rfl
  | some body => exact namedChildren_moved body

@[simp]
theorem line_moved : (node.moved bytes rows).line = node.line + UInt32.ofNat rows := by
  rw [line, line, row_moved, UInt32.ofNat_add, UInt32.add_assoc, UInt32.add_assoc,
    UInt32.add_comm (UInt32.ofNat rows)]

theorem toNat_line_add (hrow : node.row + rows + 1 < UInt32.size) :
    (node.line + UInt32.ofNat rows).toNat = node.line.toNat + rows := by
  have hmoved : (node.moved 0 rows).row + 1 < UInt32.size := by
    rw [row_moved]
    exact hrow
  have hline : (node.moved 0 rows).line = node.line + UInt32.ofNat rows := node.line_moved
  rw [← hline, toNat_line hmoved, row_moved, toNat_line (by omega)]
  omega

theorem exists_line_of_firstFaultLine? {line : UInt32} (node : SyntaxNode)
    (hline : node.firstFaultLine? = some line) : ∃ fault ∈ preorder node, fault.line = line := by
  rw [firstFaultLine?_eq] at hline
  split_ifs at hline
  · cases hline
    exact ⟨node, OrderedTree.self_mem_preorder node, rfl⟩
  · obtain ⟨child, hchild, hbelow⟩ := List.exists_of_findSome?_eq_some hline
    have hmem : child ∈ node.children := (List.mem_filter.1 hchild).1
    obtain ⟨fault, hfault, heq⟩ := exists_line_of_firstFaultLine? child hbelow
    exact ⟨fault, OrderedTree.mem_preorder_of_mem_children hmem hfault, heq⟩
termination_by node.size
decreasing_by exact size_lt_of_mem_children hmem

/-- Behind the inserted text, the moved node covers what it covered before. -/
@[simp]
theorem text_moved (front source : ByteArray) :
    (node.moved front.size rows).text (front ++ source) = node.text source := by
  have hextract : (front ++ source).extract (node.start + front.size) (node.stop + front.size) =
      source.extract node.start node.stop := by
    have hfront : front.extract (node.start + front.size) (node.stop + front.size) =
        ByteArray.empty := by
      rw [ByteArray.extract_eq_empty_iff]
      omega
    rw [ByteArray.extract_append, Nat.add_sub_cancel, Nat.add_sub_cancel, hfront,
      ByteArray.empty_append]
  rw [text, start_moved, stop_moved, hextract, text]

@[simp]
theorem chars_moved (front source : ByteArray) :
    (node.moved front.size rows).chars (front ++ source) = node.chars source := by
  rw [chars, text_moved, chars]

theorem firstFaultLine?_moved (node : SyntaxNode) :
    (node.moved bytes rows).firstFaultLine? =
      node.firstFaultLine?.map (· + UInt32.ofNat rows) := by
  have hchildren : ((node.children.filter (·.hasError)).map (moved bytes rows)).findSome?
        firstFaultLine? =
      ((node.children.filter (·.hasError)).findSome? firstFaultLine?).map
        (· + UInt32.ofNat rows) := by
    rw [List.findSome?_map, List.map_findSome?, ← List.head?_filterMap, ← List.head?_filterMap]
    refine congrArg List.head? (List.filterMap_congr fun child hmem => ?_)
    exact firstFaultLine?_moved child
  rw [firstFaultLine?_eq, firstFaultLine?_eq node, isFaulty_moved, line_moved, children_moved,
    List.filter_map]
  simp only [Function.comp_def, hasError_moved]
  rw [hchildren]
  split_ifs <;> rfl
termination_by node.size
decreasing_by exact size_lt_of_mem_children (List.mem_filter.1 hmem).1

theorem errorLine?_moved :
    (node.moved bytes rows).errorLine? = node.errorLine?.map (· + UInt32.ofNat rows) := by
  rw [errorLine?, errorLine?, hasError_moved, firstFaultLine?_moved]
  split_ifs <;> rfl

end SyntaxNode

/-! ### Names

Each is read off the texts of nodes, all of which have moved alike.
-/

section Names

variable {front source : ByteArray} {rows : Nat} (node : SyntaxNode)

namespace Declarator

@[simp]
theorem conversionOf_moved :
    conversionOf (front ++ source) (node.moved front.size rows) = conversionOf source node := by
  rw [conversionOf, SyntaxNode.chars_moved, conversionOf]

@[simp]
theorem qualifierOf_moved :
    qualifierOf (front ++ source) (node.moved front.size rows) = qualifierOf source node := by
  simp only [qualifierOf, SyntaxNode.kind_moved, SyntaxNode.child?_moved, SyntaxNode.text_moved,
    Option.map_map, Function.comp_def]

@[simp]
theorem spelledName?_moved (node : SyntaxNode) :
    spelledName? (front ++ source) (node.moved front.size rows) = spelledName? source node := by
  have hname : (node.child? .name).bind (fun name =>
        spelledName? (front ++ source) (name.moved front.size rows)) =
      (node.child? .name).bind (spelledName? source) :=
    Option.bind_congr fun name _ => spelledName?_moved name
  rw [spelledName?_eq, spelledName?_eq source node]
  simp only [SyntaxNode.kind_moved, SyntaxNode.child?_moved, SyntaxNode.text_moved,
    SyntaxNode.chars_moved, conversionOf_moved, qualifierOf_moved, Option.bind_map, Option.map_map,
    Function.comp_def, hname]
termination_by node.size
decreasing_by exact SyntaxNode.size_lt_of_child? ‹_›

@[simp]
theorem functionName?_moved (node : SyntaxNode) :
    functionName? (front ++ source) (node.moved front.size rows) = functionName? source node := by
  have hinner : (node.child? .declarator).bind (fun inner =>
        (spelledName? source inner).or
          (functionName? (front ++ source) (inner.moved front.size rows))) =
      (node.child? .declarator).bind fun inner =>
        (spelledName? source inner).or (functionName? source inner) :=
    Option.bind_congr fun inner _ => congrArg _ (functionName?_moved inner)
  have hwrapped : node.wrapped?.bind (fun inner =>
        functionName? (front ++ source) (inner.moved front.size rows)) =
      node.wrapped?.bind (functionName? source) :=
    Option.bind_congr fun inner _ => functionName?_moved inner
  rw [functionName?_eq, functionName?_eq source node]
  simp only [SyntaxNode.kind_moved, SyntaxNode.child?_moved, SyntaxNode.wrapped?_moved,
    conversionOf_moved, spelledName?_moved, Option.bind_map, Function.comp_def, hinner, hwrapped]
termination_by node.size
decreasing_by
  · exact SyntaxNode.size_lt_of_child? ‹_›
  · exact SyntaxNode.size_lt_of_wrapped? ‹_›

@[simp]
theorem qualifiedName?_moved {bytes : Nat} (node : SyntaxNode) :
    qualifiedName? (node.moved bytes rows) =
      (qualifiedName? node).map (SyntaxNode.moved bytes rows) := by
  have hinner : (node.child? .declarator).bind (fun inner =>
        qualifiedName? (inner.moved bytes rows)) =
      (node.child? .declarator).bind fun inner =>
        (qualifiedName? inner).map (SyntaxNode.moved bytes rows) :=
    Option.bind_congr fun inner _ => qualifiedName?_moved inner
  have hwrapped : node.wrapped?.bind (fun inner => qualifiedName? (inner.moved bytes rows)) =
      node.wrapped?.bind fun inner =>
        (qualifiedName? inner).map (SyntaxNode.moved bytes rows) :=
    Option.bind_congr fun inner _ => qualifiedName?_moved inner
  rw [qualifiedName?_eq, qualifiedName?_eq node]
  simp only [SyntaxNode.kind_moved, SyntaxNode.child?_moved, SyntaxNode.wrapped?_moved,
    Option.bind_map, Function.comp_def, hinner, hwrapped]
  split <;> simp only [Option.map_bind, Option.map_some, Option.map_none, Function.comp_def]
termination_by node.size
decreasing_by
  · exact SyntaxNode.size_lt_of_child? ‹_›
  · exact SyntaxNode.size_lt_of_wrapped? ‹_›

@[simp]
theorem hasTemplatedScope_moved {bytes : Nat} :
    hasTemplatedScope (node.moved bytes rows) = hasTemplatedScope node := by
  rw [hasTemplatedScope, SyntaxNode.child?_moved, Option.any_map]
  simp only [SyntaxNode.kind_moved, hasTemplatedScope]

@[simp]
theorem countTemplatedScopes_moved {bytes : Nat} (node : SyntaxNode) :
    countTemplatedScopes (node.moved bytes rows) = countTemplatedScopes node := by
  have hname : ((node.child? .name).filter (·.kind.isQualified)).map (fun name =>
        countTemplatedScopes (name.moved bytes rows)) =
      ((node.child? .name).filter (·.kind.isQualified)).map countTemplatedScopes :=
    Option.map_congr fun name _ => countTemplatedScopes_moved name
  rw [countTemplatedScopes_eq, countTemplatedScopes_eq node, hasTemplatedScope_moved,
    SyntaxNode.child?_moved, Option.filter_map]
  simp only [Function.comp_def, SyntaxNode.kind_moved, Option.map_map, hname]
termination_by node.size
decreasing_by exact SyntaxNode.size_lt_of_child? (Option.filter_eq_some_iff.1 ‹_›).1

@[simp]
theorem spentHeaders_moved {bytes : Nat} :
    spentHeaders (node.moved bytes rows) = spentHeaders node := by
  simp only [spentHeaders, SyntaxNode.kind_moved, SyntaxNode.child?_moved, Option.bind_map,
    Function.comp_def, qualifiedName?_moved, Option.map_bind, Option.map_map,
    countTemplatedScopes_moved]

end Declarator

namespace Lowering

@[simp]
theorem tagOf_moved (node : SyntaxNode) :
    tagOf (front ++ source) (node.moved front.size rows) = tagOf source node := by
  have hname : (node.child? .name).map (fun name =>
        tagOf (front ++ source) (name.moved front.size rows)) =
      (node.child? .name).map (tagOf source) :=
    Option.map_congr fun name _ => tagOf_moved name
  rw [tagOf_eq, tagOf_eq source node]
  simp only [SyntaxNode.kind_moved, SyntaxNode.child?_moved, SyntaxNode.text_moved,
    Option.map_map, Function.comp_def, hname]
termination_by node.size
decreasing_by exact SyntaxNode.size_lt_of_child? ‹_›

@[simp]
theorem tagName_moved :
    tagName (front ++ source) (node.moved front.size rows) = tagName source node := by
  simp only [tagName, SyntaxNode.child?_moved, Option.map_map, Function.comp_def, tagOf_moved]

@[simp]
theorem namespaceNames_moved :
    namespaceNames (front ++ source) (node.moved front.size rows) = namespaceNames source node := by
  rw [namespaceNames, SyntaxNode.child?_moved, namespaceNames]
  cases node.child? .name with
  | none => rfl
  | some name => simp only [Option.map_some, SyntaxNode.chars_moved]

@[simp]
theorem linkageName_moved :
    linkageName (front ++ source) (node.moved front.size rows) = linkageName source node := by
  simp only [linkageName, SyntaxNode.child?_moved, Option.map_map, Function.comp_def,
    SyntaxNode.chars_moved]

end Lowering

end Names

/-! ### Entities -/

namespace Entity

def movedDown (rows : Nat) : Entity → Entity
  | { kind, name, isTemplated, isFriended, isDefinition, line, children } =>
      { kind, name, isTemplated, isFriended, isDefinition
        line := line + UInt32.ofNat rows
        children := movedDownAll children }
where
  movedDownAll : List Entity → List Entity
    | [] => []
    | first :: rest => movedDown rows first :: movedDownAll rest

variable {rows : Nat} (entity : Entity)

theorem movedDownAll_eq_map (entities : List Entity) :
    movedDown.movedDownAll rows entities = entities.map (movedDown rows) := by
  induction entities with
  | nil => rfl
  | cons first rest ih => rw [movedDown.movedDownAll, ih, List.map_cons]

theorem movedDown_eq :
    entity.movedDown rows =
      { entity with
        line := entity.line + UInt32.ofNat rows
        children := entity.children.map (movedDown rows) } := by
  cases entity
  rw [movedDown, movedDownAll_eq_map]

@[simp]
theorem movedDown_asTemplated :
    entity.asTemplated.movedDown rows = (entity.movedDown rows).asTemplated := by
  rw [movedDown_eq, movedDown_eq]
  rfl

@[simp]
theorem movedDown_asFriended :
    entity.asFriended.movedDown rows = (entity.movedDown rows).asFriended := by
  rw [movedDown_eq, movedDown_eq]
  rfl

@[simp]
theorem movedDown_asDeclaration :
    entity.asDeclaration.movedDown rows = (entity.movedDown rows).asDeclaration := by
  rw [movedDown_eq, movedDown_eq]
  rfl

@[simp]
theorem movedDown_onLine_ofKind (kind : Kind) (name : String) (line : UInt32) :
    ((ofKind kind name).onLine line).movedDown rows =
      (ofKind kind name).onLine (line + UInt32.ofNat rows) := by
  rw [movedDown_eq]
  rfl

@[simp]
theorem movedDown_onLine_holding (members : List Entity) (line : UInt32) :
    ((entity.holding members).onLine line).movedDown rows =
      (entity.holding (members.map (movedDown rows))).onLine (line + UInt32.ofNat rows) := by
  rw [movedDown_eq]
  rfl

@[simp]
theorem movedDown_around (kind : Kind) (inner : List Entity) (line : UInt32) :
    (around kind inner line).movedDown rows =
      around kind (inner.map (movedDown rows)) (line + UInt32.ofNat rows) := by
  have hname (entity : Entity) : (entity.movedDown rows).name = entity.name := by
    rw [movedDown_eq]
  rw [around, movedDown_onLine_holding, around, List.head?_map, Option.map_map]
  simp only [Function.comp_def, hname]

theorem map_movedDown_comm {mark : Entity → Entity}
    (hmark : ∀ entity, (mark entity).movedDown rows = mark (entity.movedDown rows))
    (entities : List Entity) :
    (entities.map (movedDown rows)).map mark = (entities.map mark).map (movedDown rows) := by
  simp only [List.map_map, Function.comp_def, hmark]

theorem preorder_movedDown (entity : Entity) :
    preorder (entity.movedDown rows) = (preorder entity).map (movedDown rows) := by
  have hchildren : (entity.children.map (movedDown rows)).flatMap preorder =
      (entity.children.flatMap preorder).map (movedDown rows) := by
    rw [List.flatMap_map, List.map_flatMap]
    exact List.flatMap_congr fun child hchild => preorder_movedDown child
  have hbelow : OrderedTree.children (entity.movedDown rows) =
      entity.children.map (movedDown rows) := by
    rw [movedDown_eq]
    rfl
  rw [preorder_eq, preorder_eq entity, hbelow, hchildren, List.map_cons]
  rfl
termination_by entity.count
decreasing_by exact OrderedTree.weight_lt_of_mem_children hchild

end Entity

namespace Verdict

def movedDown (rows : Nat) (verdict : Verdict) : Verdict :=
  { verdict with line := verdict.line + UInt32.ofNat rows }

end Verdict

namespace Policy

variable (policy : Policy) (rows : Nat) (entity : Entity)

theorem verdict_movedDown :
    policy.verdict (entity.movedDown rows) = (policy.verdict entity).movedDown rows := by
  rw [Entity.movedDown_eq]
  rfl

theorem owesVerdict_movedDown_iff :
    EntityTree.OwesVerdict (entity.movedDown rows) ↔ EntityTree.OwesVerdict entity := by
  rw [Entity.movedDown_eq]
  rfl

theorem verdicts_movedDown :
    policy.verdicts (entity.movedDown rows) =
      (policy.verdicts entity).map (Verdict.movedDown rows) := by
  simp only [verdicts, EntityTree.judged_eq, Entity.preorder_movedDown, List.filter_map,
    List.map_map, Function.comp_def, owesVerdict_movedDown_iff, verdict_movedDown]

theorem forestVerdicts_movedDown (entities : List Entity) :
    policy.forestVerdicts (entities.map (Entity.movedDown rows)) =
      (policy.forestVerdicts entities).map (Verdict.movedDown rows) := by
  simp only [forestVerdicts, List.flatMap_map, List.map_flatMap, verdicts_movedDown]

end Policy

namespace Lowering

open SyntaxNode (moved)

variable {front source : ByteArray} {rows : Nat} (node : SyntaxNode)

@[simp]
theorem callableEntity_moved {bytes : Nat} (owner : Option String) :
    callableEntity (node.moved bytes rows) owner = fun declared =>
      (callableEntity node owner declared).movedDown rows := by
  funext declared
  simp only [callableEntity, SyntaxNode.child?_moved, Option.isSome_map, SyntaxNode.line_moved,
    Entity.movedDown_onLine_ofKind]

theorem definedCallable?_moved (owner : Option String) :
    definedCallable? (front ++ source) (node.moved front.size rows) owner =
      (definedCallable? source node owner).map (Entity.movedDown rows) := by
  simp only [definedCallable?, SyntaxNode.child?_moved, Option.bind_map, Option.map_map,
    Function.comp_def, Declarator.functionName?_moved, callableEntity_moved]

theorem declaredCallables_moved (owner : Option String) :
    declaredCallables (front ++ source) (node.moved front.size rows) owner =
      (declaredCallables source node owner).map (Entity.movedDown rows) := by
  simp only [declaredCallables, SyntaxNode.childrenIn_moved, List.filterMap_map, List.map_map,
    Function.comp_def, Declarator.functionName?_moved, callableEntity_moved,
    Entity.movedDown_asDeclaration]

theorem classEntity_moved (members : List Entity) :
    classEntity (front ++ source) (node.moved front.size rows)
        (members.map (Entity.movedDown rows)) =
      (classEntity source node members).movedDown rows := by
  simp only [classEntity, tagName_moved, SyntaxNode.child?_moved, Option.isSome_map,
    SyntaxNode.line_moved]
  split_ifs
  · rw [Entity.movedDown_onLine_holding]
  · rw [Entity.movedDown_asDeclaration, Entity.movedDown_onLine_holding]

theorem enumEntity_moved :
    enumEntity (front ++ source) (node.moved front.size rows) =
      (enumEntity source node).movedDown rows := by
  simp only [enumEntity, tagName_moved, SyntaxNode.child?_moved, Option.isSome_map,
    SyntaxNode.line_moved]
  split_ifs
  · rw [Entity.movedDown_onLine_ofKind]
  · rw [Entity.movedDown_asDeclaration, Entity.movedDown_onLine_ofKind]

theorem linkageEntity_moved (members : List Entity) :
    linkageEntity (front ++ source) (node.moved front.size rows)
        (members.map (Entity.movedDown rows)) =
      (linkageEntity source node members).movedDown rows := by
  rw [linkageEntity, linkageName_moved, SyntaxNode.line_moved, linkageEntity,
    Entity.movedDown_onLine_holding]

theorem namespaceChain_moved (line : UInt32) (members : List Entity) (names : List String) :
    namespaceChain (line + UInt32.ofNat rows) (members.map (Entity.movedDown rows)) names =
      (namespaceChain line members names).map (Entity.movedDown rows) := by
  induction names with
  | nil => rfl
  | cons name names ih =>
      rw [namespaceChain, ih, namespaceChain, List.map_singleton, Entity.movedDown_onLine_holding]

@[simp]
theorem templateHeaders_moved {bytes : Nat} (node : SyntaxNode) :
    templateHeaders (node.moved bytes rows) =
      ((templateHeaders node).1, (templateHeaders node).2.moved bytes rows) := by
  rw [templateHeaders_eq, templateHeaders_eq node, SyntaxNode.namedChildren_moved,
    List.find?_map]
  simp only [Function.comp_def, SyntaxNode.kind_moved]
  cases hnested : node.namedChildren.find? (·.kind == .templateDeclaration) with
  | none => rfl
  | some nested => simp only [Option.map_some, templateHeaders_moved nested]
termination_by node.size
decreasing_by exact SyntaxNode.size_lt_of_mem_namedChildren (List.mem_of_find?_eq_some hnested)

theorem templateContents_moved {bytes : Nat} :
    templateContents (node.moved bytes rows) =
      (templateContents node).map (moved bytes rows) := by
  simp only [templateContents, templateHeaders_moved, SyntaxNode.namedChildren_moved,
    List.filter_map, Function.comp_def, SyntaxNode.kind_moved]

theorem markTemplated_moved {bytes : Nat} (layers : Nat) (entities : List Entity) :
    markTemplated layers (node.moved bytes rows) (entities.map (Entity.movedDown rows)) =
      (markTemplated layers node entities).map (Entity.movedDown rows) := by
  rw [markTemplated, Declarator.spentHeaders_moved, markTemplated]
  split_ifs
  · exact Entity.map_movedDown_comm Entity.movedDown_asTemplated entities
  · rfl

/-- What is claimed of a node: it is lowered to the same entities, moved down. -/
def LowersMoved (front source : ByteArray) (rows : Nat) (node : SyntaxNode) : Prop :=
  ∀ owner, lower (front ++ source) (node.moved front.size rows) owner =
    (lower source node owner).map (Entity.movedDown rows)

theorem flatMap_lower_moved (nodes : List SyntaxNode)
    (hnodes : ∀ child ∈ nodes, LowersMoved front source rows child) (owner : Option String) :
    (nodes.map (moved front.size rows)).flatMap (lower (front ++ source) · owner) =
      (nodes.flatMap (lower source · owner)).map (Entity.movedDown rows) := by
  rw [List.flatMap_map, List.map_flatMap]
  exact List.flatMap_congr fun child hchild => hnodes child hchild owner

theorem lowersMoved_step (hsteps : ∀ child ∈ steps node, LowersMoved front source rows child) :
    LowersMoved front source rows node := by
  intro owner
  rw [lower_eq, lower_eq source node, SyntaxNode.kind_moved]
  rw [steps] at hsteps
  -- Kind by kind: what the steps lead to has moved down, and so has what is put around it.
  cases hkind : node.kind <;> rw [hkind] at hsteps
  case functionDefinition => simp only [definedCallable?_moved, Option.toList_map]
  case declaration | fieldDeclaration =>
    have htypes := flatMap_lower_moved node.definedType?.toList hsteps none
    simp only [SyntaxNode.definedType?_moved, Option.toList_map, htypes, declaredCallables_moved,
      List.map_append]
  case typeDefinition =>
    have htypes := flatMap_lower_moved node.definedType?.toList hsteps none
    simp only [SyntaxNode.definedType?_moved, Option.toList_map, htypes]
  case namespaceDefinition =>
    have hmembers := flatMap_lower_moved node.memberNodes hsteps none
    simp only [SyntaxNode.memberNodes_moved, hmembers, SyntaxNode.line_moved, namespaceNames_moved,
      namespaceChain_moved]
  case linkageSpecification =>
    have hbody := flatMap_lower_moved (node.child? .body).toList hsteps owner
    simp only [SyntaxNode.child?_moved, Option.toList_map, hbody, linkageEntity_moved,
      List.map_singleton]
  case classSpecifier | structSpecifier | unionSpecifier =>
    have hmembers := flatMap_lower_moved node.memberNodes hsteps (some (tagName source node))
    simp only [SyntaxNode.memberNodes_moved, tagName_moved, hmembers, classEntity_moved,
      List.map_singleton]
  case enumSpecifier => simp only [enumEntity_moved, List.map_singleton]
  case templateInstantiation =>
    have htypes := flatMap_lower_moved node.definedType?.toList hsteps none
    simp only [SyntaxNode.definedType?_moved, Option.toList_map, htypes, declaredCallables_moved,
      ← List.map_append, Entity.map_movedDown_comm Entity.movedDown_asTemplated,
      SyntaxNode.line_moved, List.map_singleton, Entity.movedDown_around]
  case templateDeclaration =>
    simp only [templateHeaders_moved, templateContents_moved, SyntaxNode.line_moved,
      List.map_singleton, Entity.movedDown_around, List.flatMap_map, List.map_flatMap]
    refine congrArg (fun inner => [Entity.around .template inner _])
      (List.flatMap_congr fun child hchild => ?_)
    rw [hsteps child hchild owner, markTemplated_moved]
  case friendDeclaration =>
    have hnamed := flatMap_lower_moved node.namedChildren hsteps none
    simp only [SyntaxNode.namedChildren_moved, hnamed,
      Entity.map_movedDown_comm Entity.movedDown_asFriended, SyntaxNode.line_moved,
      List.map_singleton, Entity.movedDown_around]
  case declarationList | fieldDeclarationList | preprocIf | preprocIfdef | preprocElse |
      preprocElif | preprocElifdef | error =>
    simp only [SyntaxNode.namedChildren_moved]
    exact flatMap_lower_moved node.namedChildren hsteps owner
  all_goals rfl

theorem lowersMoved (front source : ByteArray) (rows : Nat) (node : SyntaxNode) :
    LowersMoved front source rows node :=
  lowersMoved_step node fun child _ => lowersMoved front source rows child
termination_by node.size
decreasing_by exact size_lt_of_mem_steps ‹_›

/-- With bytes put in front of the source, and the nodes moved behind them and some rows down, the
file has the same entities, but for their lines: each goes up by the number of rows, and so do those
of the verdicts and of the first error. The file itself still begins on the first line. -/
theorem fileEntity_moved (front source : ByteArray) (rows : Nat) (name : String)
    (root : SyntaxNode) :
    let file := fileEntity source name root
    let behind := fileEntity (front ++ source) name (root.moved front.size rows)
    behind = { file with children := file.children.map (Entity.movedDown rows) } ∧
    (∀ policy : Policy,
      policy.verdicts behind = (policy.verdicts file).map (Verdict.movedDown rows)) ∧
    (root.moved front.size rows).errorLine? = root.errorLine?.map (· + UInt32.ofNat rows) ∧
    ((∀ node ∈ preorder root, node.row + rows + 1 < UInt32.size) →
      (∀ entity ∈ file.children.flatMap preorder,
        (entity.line + UInt32.ofNat rows).toNat = entity.line.toNat + rows) ∧
      (∀ policy : Policy, ∀ verdict ∈ policy.verdicts file,
        (verdict.line + UInt32.ofNat rows).toNat = verdict.line.toNat + rows) ∧
      ∀ line, root.errorLine? = some line →
        (line + UInt32.ofNat rows).toNat = line.toNat + rows) := by
  intro file behind
  have hbehind :
      behind = { file with children := file.children.map (Entity.movedDown rows) } := by
    have hchildren := flatMap_lower_moved root.namedChildren
      (fun child _ => lowersMoved front source rows child) none
    rw [← SyntaxNode.namedChildren_moved] at hchildren
    exact congrArg (fun children => (Entity.ofFile name children).onLine 1) hchildren
  have hbelow (policy : Policy) :
      policy.verdicts file = policy.forestVerdicts file.children :=
    policy.verdicts_of_isCallable_eq_false rfl
  have hverdicts (policy : Policy) :
      policy.verdicts behind = (policy.verdicts file).map (Verdict.movedDown rows) := by
    have hmoved : policy.verdicts behind = policy.forestVerdicts behind.children :=
      policy.verdicts_of_isCallable_eq_false rfl
    rw [hmoved, hbelow, ← policy.forestVerdicts_movedDown, hbehind]
  refine ⟨hbehind, hverdicts, root.errorLine?_moved, fun hrows => ?_⟩
  let Known (line : UInt32) : Prop := (line + UInt32.ofNat rows).toNat = line.toNat + rows
  have hlines : ∀ place ∈ preorder root, Known place.line :=
    fun place hplace => place.toNat_line_add (hrows place hplace)
  have hentities : ∀ entity ∈ file.children.flatMap preorder, Known entity.line := by
    intro entity hmem
    obtain ⟨top, htop, hinside⟩ := List.mem_flatMap.1 hmem
    obtain ⟨child, hchild, hentity⟩ := List.mem_flatMap.1 htop
    have hsubset := SyntaxNode.preorder_subset_of_mem_namedChildren hchild
    have hsettled : Settled Known top :=
      settled_of_mem_lower child none (fun place hplace => hlines place (hsubset hplace)) top
        hentity
    exact (hsettled.sound entity hinside).2
  refine ⟨hentities, fun policy verdict hmem => ?_, fun line hline => ?_⟩
  · rw [hbelow] at hmem
    obtain ⟨top, htop, hmem⟩ := List.mem_flatMap.1 hmem
    obtain ⟨entity, hentity, -, rfl⟩ := policy.mem_verdicts_iff.1 hmem
    exact hentities entity (List.mem_flatMap.2 ⟨top, htop, hentity⟩)
  · rw [SyntaxNode.errorLine?] at hline
    split_ifs at hline
    obtain ⟨fault, hfault, rfl⟩ := root.exists_line_of_firstFaultLine? hline
    exact hlines fault hfault

/-- The text `int draw();` alone. -/
def drawingSource : ByteArray := "int draw();".toUTF8

def drawingUnit : SyntaxNode :=
  { SyntaxNode.blank with
    stop := 11
    children :=
      [{ SyntaxNode.blank with
         kind := .declaration
         stop := 11
         children :=
           [{ SyntaxNode.blank with
              kind := .functionDeclarator
              field := some .declarator
              start := 4
              stop := 10
              children :=
                [{ SyntaxNode.blank with
                   kind := .identifier, field := some .declarator, start := 4, stop := 8 }] }] }] }

/-- A comment above it, on two rows. -/
def drawingFront : ByteArray := "// draws\n// a line\n".toUTF8

theorem fileEntity_moved_drawing :
    let behind := fileEntity (drawingFront ++ drawingSource) "a.cpp"
      (drawingUnit.moved drawingFront.size 2)
    Policy.standard.verdicts behind = [⟨"draw", .function, 3, false, none⟩] ∧
      ∀ verdict ∈ Policy.standard.verdicts (fileEntity drawingSource "a.cpp" drawingUnit),
        (verdict.line + 2).toNat = verdict.line.toNat + 2 := by
  intro behind
  have hrows : ∀ node ∈ preorder drawingUnit, node.row + 2 + 1 < UInt32.size := by
    decide +kernel
  obtain ⟨-, hverdicts, -, hlines⟩ :=
    fileEntity_moved drawingFront drawingSource 2 "a.cpp" drawingUnit
  refine ⟨?_, (hlines hrows).2.1 Policy.standard⟩
  rw [hverdicts]
  decide +kernel

end Lowering

end NamingCheck
