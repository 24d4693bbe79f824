import NamingCheck.Proofs.Lowering.Wrapping
import NamingCheck.Proofs.Run.Outcome

/-!
# Comments between the nodes

A comment may stand between any two children. Lookups by field pass over it, and it declares nothing
where children are collected. Only a wrapping layer without a field for its declarator takes its
last named child whatever that is: a comment at the end of such a layer is taken for the declarator,
and the name below is lost.
-/

namespace NamingCheck

namespace SyntaxNode

/-- A comment as the grammar lets it stand anywhere. -/
structure IsComment (node : SyntaxNode) : Prop where
  kind_eq : node.kind = .other "comment"
  field_eq : node.field = none
  isNamed_eq : node.isNamed = true
  isError_eq : node.isError = false
  isMissing_eq : node.isMissing = false
  hasError_eq : node.hasError = false
  children_eq : node.children = []

/-- A comment is put in front of the children `after`, at a place that is asked for. -/
inductive Commented (Place : SyntaxNode → List SyntaxNode → Prop) :
    SyntaxNode → SyntaxNode → Prop where
  | between {node result comment : SyntaxNode} {before after : List SyntaxNode}
      (hsame : SameButChildren node result)
      (hnode : node.children = before ++ after)
      (hresult : result.children = before ++ comment :: after)
      (hcomment : IsComment comment)
      (hplace : Place node after) :
      Commented Place node result

/-- What is put in front of these children is taken for the declarator of a wrapping layer. -/
def EndsLayer (node : SyntaxNode) (after : List SyntaxNode) : Prop :=
  node.kind ∈ Declarator.wrapping ∧ node.child? .declarator = none ∧
    ∀ later ∈ after, later.isNamed = false

variable {node result : SyntaxNode} {Place : SyntaxNode → List SyntaxNode → Prop}

theorem Commented.sameButChildren (hcommented : Commented Place node result) :
    SameButChildren node result := by
  cases hcommented with
  | between hsame _ _ _ _ => exact hsame

theorem Commented.filter_children_eq (hcommented : Commented Place node result)
    {kept : SyntaxNode → Bool} (hskipped : ∀ comment, IsComment comment → kept comment = false) :
    node.children.filter kept = result.children.filter kept := by
  cases hcommented with
  | between _ hnode hresult hcomment _ =>
      have hcomment := hskipped _ hcomment
      rw [hnode, hresult, List.filter_append, List.filter_append,
        List.filter_cons_of_neg (by rw [hcomment]; decide)]

theorem Commented.childrenIn_eq (hcommented : Commented Place node result) (field : SyntaxField) :
    node.childrenIn field = result.childrenIn field :=
  hcommented.filter_children_eq fun comment hcomment => by
    rw [hcomment.field_eq]
    rfl

theorem Commented.child?_eq (hcommented : Commented Place node result) (field : SyntaxField) :
    node.child? field = result.child? field := by
  rw [child?, child?, ← List.head?_filter, ← List.head?_filter]
  exact congrArg List.head? (hcommented.childrenIn_eq field)

theorem Commented.wrapped?_eq (hcommented : Commented (fun node after => ¬EndsLayer node after) node
    result) (hkind : node.kind ∈ Declarator.wrapping) : node.wrapped? = result.wrapped? := by
  rw [wrapped?, wrapped?, ← hcommented.child?_eq]
  cases hdeclarator : node.child? .declarator with
  | some declarator => rw [Option.some_or, Option.some_or]
  | none =>
      -- The last named child counts, and the comment is not the last.
      rw [Option.none_or, Option.none_or]
      cases hcommented with
      | @between comment before after _ hnode hresult hcomment hplace =>
          have hlater : after.filter (·.isNamed) ≠ [] := by
            intro hnil
            refine hplace ⟨hkind, hdeclarator, fun later hlater => ?_⟩
            simpa using List.filter_eq_nil_iff.1 hnil later hlater
          obtain ⟨first, rest, hcons⟩ := List.exists_cons_of_ne_nil hlater
          rw [namedChildren, namedChildren, hnode, hresult, List.filter_append, List.filter_append,
            List.filter_cons_of_pos hcomment.isNamed_eq, hcons, List.getLast?_append,
            List.getLast?_append, List.getLast?_cons_cons]

theorem Commented.wrapped?_of_endsLayer (hcommented : Commented EndsLayer node result) :
    ∃ comment, IsComment comment ∧ result.wrapped? = some comment := by
  have hdeclarator := hcommented.child?_eq .declarator
  cases hcommented with
  | @between comment before after _ _ hresult hcomment hplace =>
      obtain ⟨-, hnone, hlater⟩ := hplace
      have hafter : after.filter (·.isNamed) = [] :=
        List.filter_eq_nil_iff.2 fun later hmem => by simp [hlater later hmem]
      refine ⟨comment, hcomment, ?_⟩
      rw [wrapped?, ← hdeclarator, hnone, Option.none_or, namedChildren, hresult,
        List.filter_append, List.filter_cons_of_pos hcomment.isNamed_eq, hafter,
        List.getLast?_concat]

/-! ### Faults -/

theorem SameButChildren.firstFaultLine?_congr (hsame : SameButChildren node result)
    (hchildren : (node.children.filter (·.hasError)).findSome? firstFaultLine? =
      (result.children.filter (·.hasError)).findSome? firstFaultLine?) :
    node.firstFaultLine? = result.firstFaultLine? := by
  have hfaulty : node.isFaulty = result.isFaulty := (congrArg isFaulty hsame).symm
  rw [firstFaultLine?_eq node, firstFaultLine?_eq result, hfaulty, hsame.sameShell.line_eq,
    hchildren]

theorem firstFaultLine?_of_commented
    (hcommented : Somewhere SameButChildren (Commented Place) node result) :
    SameButChildren node result ∧ node.firstFaultLine? = result.firstFaultLine? := by
  -- On the way down to the comment, every node keeps its flags, so the same children are searched.
  induction hcommented with
  | here hhere =>
      refine ⟨hhere.sameButChildren, hhere.sameButChildren.firstFaultLine?_congr ?_⟩
      rw [hhere.filter_children_eq fun _ hcomment => hcomment.hasError_eq]
  | @inside node result child changed before after hsame hnode hresult _ ih =>
      obtain ⟨hchild, hfault⟩ := ih
      have herror : child.hasError = changed.hasError := (congrArg hasError hchild).symm
      refine ⟨hsame, hsame.firstFaultLine?_congr ?_⟩
      rw [hnode, hresult, List.filter_append, List.filter_append, List.findSome?_append,
        List.findSome?_append, List.filter_cons, List.filter_cons, herror]
      cases changed.hasError with
      | true => rw [if_pos rfl, if_pos rfl, List.findSome?_cons, List.findSome?_cons, hfault]
      | false => rfl

theorem errorLine?_of_commented
    (hcommented : Somewhere SameButChildren (Commented Place) node result) :
    node.errorLine? = result.errorLine? := by
  obtain ⟨hsame, hfault⟩ := firstFaultLine?_of_commented hcommented
  have herror : node.hasError = result.hasError := (congrArg hasError hsame).symm
  rw [errorLine?, errorLine?, herror, hfault]

end SyntaxNode

namespace Lowering

open Declarator (functionName? qualifiedName?)
open SyntaxNode (Commented EndsLayer IsComment SameButChildren Somewhere)

variable {source : ByteArray} {node result : SyntaxNode}
  {Place : SyntaxNode → List SyntaxNode → Prop}

theorem not_mem_entered_of_isComment {comment : SyntaxNode} (hcomment : IsComment comment) :
    comment.kind ∉ entered := by
  rw [hcomment.kind_eq]
  decide

theorem enteredChildren_eq_of_commented (hcommented : Commented Place node result) :
    node.namedChildren.filter (·.kind ∈ entered) =
      result.namedChildren.filter (·.kind ∈ entered) := by
  rw [SyntaxNode.namedChildren, SyntaxNode.namedChildren, List.filter_filter, List.filter_filter]
  apply hcommented.filter_children_eq
  intro comment hcomment
  rw [decide_eq_false (not_mem_entered_of_isComment hcomment), Bool.false_and]

theorem AlikeInside.of_commented (hcommented : Commented Place node result) :
    AlikeInside source node result := by
  refine ⟨hcommented.sameButChildren.sameShell, fun owner => ?_⟩
  have hidle (child : SyntaxNode) (hchild : child.kind ∉ entered) :
      lower source child owner = [] := lower_eq_nil source hchild owner
  rw [← flatMap_filter_entered hidle, ← flatMap_filter_entered hidle result.namedChildren,
    enteredChildren_eq_of_commented hcommented]

theorem Alike.of_commented
    (hcommented : Commented (fun node after => ¬EndsLayer node after) node result) :
    Alike source node result := by
  have hshell := hcommented.sameButChildren.sameShell
  have hchild (field : SyntaxField) :
      Option.Rel (Alike source) (node.child? field) (result.child? field) := by
    rw [hcommented.child?_eq]
    exact SyntaxNode.rel_refl Alike.refl _
  have hself (nodes : List SyntaxNode) : List.Forall₂ (Alike source) nodes nodes :=
    List.forall₂_same.2 fun node _ => Alike.refl node
  by_cases hmembers : node.kind ∈ withMembers
  · refine .of_name_of_body hshell hmembers (hchild .name) ?_
    rw [hcommented.child?_eq]
    exact SyntaxNode.rel_refl AlikeInside.refl _
  · refine .of_lookups hshell hmembers ⟨hchild, fun field => ?_, fun hkind => ?_, ?_⟩
    · rw [hcommented.childrenIn_eq]
      exact hself _
    · rw [hcommented.wrapped?_eq hkind]
      exact SyntaxNode.rel_refl Alike.refl _
    · rw [enteredChildren_eq_of_commented hcommented]
      exact hself _

theorem functionName?_of_endsLayer (hcommented : Commented EndsLayer node result) :
    functionName? source result = none ∧ qualifiedName? result = none := by
  obtain ⟨comment, hcomment, hwrapped⟩ := hcommented.wrapped?_of_endsLayer
  have hcommentName : functionName? source comment = none := by
    rw [Declarator.functionName?_eq, hcomment.kind_eq]
  have hcommentQualified : qualifiedName? comment = none := by
    rw [Declarator.qualifiedName?_eq, hcomment.kind_eq]
  have hkind : result.kind ∈ Declarator.wrapping := by
    rw [← hcommented.sameButChildren.sameShell.kind_eq]
    cases hcommented with
    | between _ _ _ _ hplace => exact hplace.1
  rw [Declarator.functionName?_eq, Declarator.qualifiedName?_eq]
  simp only [Declarator.wrapping, List.mem_cons, List.not_mem_nil, or_false] at hkind
  rcases hkind with hkind | hkind | hkind | hkind <;> rw [hkind]
  all_goals simp [hwrapped, hcommentName, hcommentQualified]

/-- A comment leaves the entities of a file and the outcome of its check as they are, unless it
stands at the end of a layer whose declarator is found by its position. Such a layer shows no name
any more. -/
theorem fileEntity_of_commented (source : ByteArray) {root result : SyntaxNode}
    (hcommented : Somewhere SameButChildren (Commented fun node after => ¬EndsLayer node after) root
      result) :
    (∀ name, fileEntity source name root = fileEntity source name result) ∧
    (∀ (options : CheckOptions) (snapshot changed : Snapshot) (render : Verdict → String)
      (path : String),
      snapshot.read path = .ok ⟨source, root⟩ → changed.read path = .ok ⟨source, result⟩ →
      CheckedFile.ofPath options snapshot render path =
        CheckedFile.ofPath options changed render path) ∧
    ∀ layer result, Commented EndsLayer layer result →
      functionName? source result = none ∧ qualifiedName? result = none := by
  have hentity (name : String) : fileEntity source name root = fileEntity source name result := by
    have hinside : AlikeInside source root result :=
      (Unchanged.of_somewhere hcommented (fun _ _ hsame => hsame.sameShell) fun _ _ hhere =>
        ⟨hhere.sameButChildren.sameShell, fun reading =>
          match reading with
          | .byKind => Alike.of_commented hhere
          | .forChildren => AlikeInside.of_commented hhere⟩).2 .forChildren
    rw [fileEntity, fileEntity, hinside.sameMembers none]
  refine ⟨hentity, fun options snapshot changed render path hread hread' => ?_,
    fun _ _ => functionName?_of_endsLayer⟩
  apply CheckedFile.ofPath_congr
  rw [LoadedFile.load, LoadedFile.load, hread, hread']
  simp only [LoadedFile.ofSource, SyntaxNode.errorLine?_of_commented hcommented, hentity path]

/-- `int (*twice(int) /* c */)(int);` -/
def twiceSource : ByteArray := "int (*twice(int) /* c */)(int);".toUTF8

def twiceComment : SyntaxNode :=
  { SyntaxNode.blank with kind := .other "comment", start := 17, stop := 24 }

def twiceInside : SyntaxNode :=
  { SyntaxNode.blank with
    kind := .pointerDeclarator
    start := 5
    stop := 16
    children :=
      [{ SyntaxNode.blank with
         kind := .functionDeclarator
         field := some .declarator
         start := 6
         stop := 16
         children :=
           [{ SyntaxNode.blank with
              kind := .identifier, field := some .declarator, start := 6, stop := 11 }] }] }

def twiceLayer (inside : List SyntaxNode) : SyntaxNode :=
  { SyntaxNode.blank with
    kind := .parenthesizedDeclarator
    field := some .declarator
    start := 4
    stop := 25
    children := inside }

def twiceDeclarator (inside : List SyntaxNode) : SyntaxNode :=
  { SyntaxNode.blank with
    kind := .functionDeclarator
    field := some .declarator
    start := 4
    stop := 30
    children := [twiceLayer inside] }

def twiceDeclaration (inside : List SyntaxNode) : SyntaxNode :=
  { SyntaxNode.blank with
    kind := .declaration, stop := 31, children := [twiceDeclarator inside] }

def twiceUnit (inside : List SyntaxNode) : SyntaxNode :=
  { SyntaxNode.blank with stop := 32, children := [twiceDeclaration inside] }

theorem isComment_twiceComment : IsComment twiceComment :=
  ⟨rfl, rfl, rfl, rfl, rfl, rfl, rfl⟩

theorem twiceUnit_commented {inside changed : List SyntaxNode}
    (hlayer : Commented Place (twiceLayer inside) (twiceLayer changed)) :
    Somewhere SameButChildren (Commented Place) (twiceUnit inside) (twiceUnit changed) := by
  have hdeclarator : Somewhere SameButChildren (Commented Place) (twiceDeclarator inside)
      (twiceDeclarator changed) :=
    .inside rfl (List.nil_append _).symm (List.nil_append _).symm (.here hlayer)
  have hdeclaration : Somewhere SameButChildren (Commented Place) (twiceDeclaration inside)
      (twiceDeclaration changed) :=
    .inside rfl (List.nil_append _).symm (List.nil_append _).symm hdeclarator
  exact .inside rfl (List.nil_append _).symm (List.nil_append _).symm hdeclaration

theorem fileEntity_of_commented_twice :
    fileEntity twiceSource "a.cpp" (twiceUnit [twiceInside]) =
      fileEntity twiceSource "a.cpp" (twiceUnit [twiceComment, twiceInside]) ∧
    CheckedFile.ofPath ⟨.standard, true⟩
        (.ofFile "a.cpp" ⟨twiceSource, twiceUnit [twiceInside]⟩) Verdict.name "a.cpp" =
      CheckedFile.ofPath ⟨.standard, true⟩
        (.ofFile "a.cpp" ⟨twiceSource, twiceUnit [twiceComment, twiceInside]⟩)
        Verdict.name "a.cpp" ∧
    functionName? twiceSource (twiceLayer [twiceInside, twiceComment]) = none := by
  have hfront : Commented (fun node after => ¬EndsLayer node after) (twiceLayer [twiceInside])
      (twiceLayer [twiceComment, twiceInside]) :=
    .between rfl (List.nil_append _).symm (List.nil_append _).symm isComment_twiceComment
      fun hends => absurd (hends.2.2 twiceInside (List.mem_singleton_self _)) (by decide)
  have hback : Commented EndsLayer (twiceLayer [twiceInside])
      (twiceLayer [twiceInside, twiceComment]) :=
    .between rfl (List.append_nil _).symm List.singleton_append.symm isComment_twiceComment
      ⟨by decide, by decide +kernel, nofun⟩
  obtain ⟨hentity, houtcome, hlayer⟩ :=
    fileEntity_of_commented twiceSource (twiceUnit_commented hfront)
  exact ⟨hentity "a.cpp",
    houtcome _ _ _ _ _ (Snapshot.read_ofFile _) (Snapshot.read_ofFile _), (hlayer _ _ hback).1⟩

/-- A comment before the closing parenthesis hides the function. -/
theorem not_forall_fileEntity_of_commented :
    ¬∀ (source : ByteArray) (root result : SyntaxNode) (name : String),
      Somewhere SameButChildren (Commented fun _ _ => True) root result →
        fileEntity source name root = fileEntity source name result := by
  intro hall
  have hcommented : Commented (fun _ _ => True) (twiceLayer [twiceInside])
      (twiceLayer [twiceInside, twiceComment]) :=
    .between rfl (List.append_nil _).symm List.singleton_append.symm isComment_twiceComment trivial
  have hsame := hall twiceSource _ _ "a.cpp" (twiceUnit_commented hcommented)
  have hplain : (fileEntity twiceSource "a.cpp" (twiceUnit [twiceInside])).count = 2 := by
    decide +kernel
  have hhidden :
      (fileEntity twiceSource "a.cpp" (twiceUnit [twiceInside, twiceComment])).count = 1 := by
    decide +kernel
  rw [hsame, hhidden] at hplain
  cases hplain

end Lowering

end NamingCheck
