import NamingCheck.Proofs.Lowering.Wrapping
import NamingCheck.Proofs.Run.Outcome

/-!
# Subtrees that are never looked into

Only nodes of the known kinds, and the bodies of classes and namespaces, are looked into. A body of
a function, a list of parameters or an initialiser is none of these: of such a node the lowering
sees the kind, the field and the range, and what is below it may be anything.
-/

namespace NamingCheck

open SyntaxNode (Replaces SameShell Somewhere)

theorem SyntaxKind.exists_eq_other {kind : SyntaxKind} (hkind : kind ∉ known) :
    ∃ name, kind = .other name := by
  cases kind
  case other name => exact ⟨name, rfl⟩
  all_goals exact absurd (by decide) hkind

namespace Lowering

open Declarator (countTemplatedScopes functionName? qualifiedName? qualifierOf spelledName?
  spentHeaders)

variable {source : ByteArray} {node result left right : SyntaxNode}

/-- All that is below some child is replaced. The child has a kind that is not known and is not what
a class or namespace has for a body, which is the first child in that field. -/
inductive Refills : SyntaxNode → SyntaxNode → Prop where
  | below {node result child changed : SyntaxNode} {before after : List SyntaxNode}
      (hnode : SameShell node result)
      (hbefore : node.children = before ++ child :: after)
      (hafter : result.children = before ++ changed :: after)
      (hchild : SameShell child changed)
      (hkind : child.kind ∉ SyntaxKind.known)
      (hqualified : child.kind.isQualified = false)
      (hbody : node.kind ∈ withMembers → child.field = some .body →
        ∃ earlier ∈ before, earlier.field = some .body) :
      Refills node result

theorem Alike.of_unread (hshell : SameShell left right) (hkind : left.kind ∉ SyntaxKind.known)
    (hqualified : left.kind.isQualified = false) : Alike source left right := by
  obtain ⟨name, hname⟩ := SyntaxKind.exists_eq_other hkind
  have hreadings (node : SyntaxNode) (hnode : node.kind = .other name) :
      spelledName? source node = none ∧ functionName? source node = none ∧
        qualifiedName? node = none ∧ spentHeaders node = 0 ∧
        tagOf source node = node.text source ∧ qualifierOf source node = node.text source ∧
        ∀ owner, lower source node owner = [] := by
    refine ⟨?_, ?_, ?_, ?_, ?_, ?_, ?_⟩
    · rw [Declarator.spelledName?_eq, hnode]
    · rw [Declarator.functionName?_eq, hnode]
    · rw [Declarator.qualifiedName?_eq, hnode]
    · rw [spentHeaders, hnode]
    · rw [tagOf_eq, hnode]
    · rw [qualifierOf, hnode]
    · intro owner
      rw [lower_eq, hnode]
  obtain ⟨hspelled, hfunction, hscopes, hspent, htag, hqualifier, hentities⟩ := hreadings left hname
  obtain ⟨hspelled', hfunction', hscopes', hspent', htag', hqualifier', hentities'⟩ :=
    hreadings right (hshell.kind_eq ▸ hname)
  exact
    { sameShell := hshell
      sameEntities := fun owner => by rw [hentities, hentities']
      sameSpelling := by rw [hspelled, hspelled']
      sameFunction := by rw [hfunction, hfunction']
      sameScopes := fun htrue => by rw [hqualified] at htrue; cases htrue
      sameQualified := by rw [hscopes, hscopes']
      sameSpent := by rw [hspent, hspent']
      sameTag := by rw [htag, htag', hshell.text_eq]
      sameQualifier := by rw [hqualifier, hqualifier', hshell.text_eq]
      sameBody := fun hdefinable => by simp [hname, definable] at hdefinable
      sameHeaders := fun hheader => by rw [hname] at hheader; cases hheader
      sameContents := fun hheader => by rw [hname] at hheader; cases hheader }

theorem Reading.inside_ne_byKind {reading : Reading} {child : SyntaxNode}
    (hinside : reading.inside node child ≠ .byKind) :
    reading = .byKind ∧ node.kind ∈ withMembers ∧ child.field = some .body := by
  cases reading with
  | forChildren => exact absurd rfl hinside
  | byKind =>
      rw [Reading.inside] at hinside
      by_cases hbody : node.kind ∈ withMembers ∧ child.field = some .body
      · exact ⟨rfl, hbody⟩
      · exact absurd (if_neg hbody) hinside

theorem Refills.sameShell (hrefills : Refills node result) : SameShell node result := by
  cases hrefills with
  | below hnode _ _ _ _ _ _ => exact hnode

theorem Refills.unchanged (hrefills : Refills node result) (reading : Reading) :
    Unchanged source reading node result := by
  cases hrefills with
  | @below child changed before after hnode hbefore hafter hchild hkind hqualified hbody =>
      have halike : Alike source child changed := .of_unread hchild hkind hqualified
      have hreplaces := Replaces.of_child hnode hbefore hafter
      by_cases hinside : reading.inside node child = .byKind
      · apply Unchanged.of_inside hreplaces hchild
        rw [hinside]
        exact halike
      · -- A second child in the field of the body, which no lookup finds.
        obtain ⟨rfl, hmembers, hfield⟩ := Reading.inside_ne_byKind hinside
        have hname : node.child? .name = result.child? .name :=
          SyntaxNode.child?_eq_of_hidden hbefore hafter hchild fun hname => by
            rw [hfield] at hname
            cases hname
        have hfirst : node.child? .body = result.child? .body :=
          SyntaxNode.child?_eq_of_hidden hbefore hafter hchild (hbody hmembers)
        refine Alike.of_name_of_body hnode hmembers ?_ ?_
        · rw [hname]
          exact SyntaxNode.rel_refl Alike.refl _
        · rw [hfirst]
          exact SyntaxNode.rel_refl AlikeInside.refl _

/-- Below a node that is never looked into, anything may stand: the entities of the file are the
same, and so is the report if errors are not fatal. -/
theorem fileEntity_of_refilled (source : ByteArray) {root result : SyntaxNode}
    (hrefilled : Somewhere SameShell Refills root result) :
    (∀ name, fileEntity source name root = fileEntity source name result) ∧
    ∀ (options : CheckOptions) (snapshot changed : Snapshot) (render : Verdict → String)
      (path : String), options.fatalErrors = false →
      snapshot.read path = .ok ⟨source, root⟩ → changed.read path = .ok ⟨source, result⟩ →
      (CheckedFile.ofPath options snapshot render path).result =
        (CheckedFile.ofPath options changed render path).result := by
  have hentity (name : String) : fileEntity source name root = fileEntity source name result := by
    have hinside : AlikeInside source root result :=
      (Unchanged.of_somewhere hrefilled (fun _ _ hsame => hsame)
        fun _ _ hrefills => ⟨hrefills.sameShell, hrefills.unchanged⟩).2 .forChildren
    rw [fileEntity, fileEntity, hinside.sameMembers none]
  refine ⟨hentity, fun options snapshot changed render path hfatal hread hread' => ?_⟩
  exact CheckedFile.ofPath_result_congr hfatal hread hread' (hentity path)

/-- `struct Box { void Put() {;;;;;} };` -/
def filledSource : ByteArray := "struct Box \x7b void Put() \x7b;;;;;\x7d \x7d;".toUTF8

def filledBlock (statements : List SyntaxNode) : SyntaxNode :=
  { SyntaxNode.blank with
    kind := .other "compound_statement"
    field := some .body
    start := 24
    stop := 31
    children := statements }

def filledDeclarator : SyntaxNode :=
  { SyntaxNode.blank with
    kind := .functionDeclarator
    field := some .declarator
    start := 18
    stop := 23
    children :=
      [{ SyntaxNode.blank with
         kind := .fieldIdentifier, field := some .declarator, start := 18, stop := 21 }] }

def filledMember (statements : List SyntaxNode) : SyntaxNode :=
  { SyntaxNode.blank with
    kind := .functionDefinition
    start := 13
    stop := 31
    children := [filledDeclarator, filledBlock statements] }

def filledUnit (statements : List SyntaxNode) : SyntaxNode :=
  guardedUnit [guardedClass [filledMember statements]]

def localClass : SyntaxNode := guardedClass [filledMember []]

theorem fileEntity_of_refilled_local :
    fileEntity filledSource "a.cpp" (filledUnit []) =
      fileEntity filledSource "a.cpp" (filledUnit [localClass]) ∧
    (CheckedFile.ofPath ⟨.standard, false⟩ (.ofFile "a.cpp" ⟨filledSource, filledUnit []⟩)
        Verdict.name "a.cpp").result =
      (CheckedFile.ofPath ⟨.standard, false⟩
        (.ofFile "a.cpp" ⟨filledSource, filledUnit [localClass]⟩) Verdict.name "a.cpp").result := by
  have hshell (node : SyntaxNode) (children : List SyntaxNode) :
      SameShell node { node with children := children } :=
    ⟨rfl, rfl, rfl, rfl, rfl, rfl⟩
  have hmember : Refills (filledMember []) (filledMember [localClass]) :=
    .below (hshell _ _) List.singleton_append.symm List.singleton_append.symm
      (hshell (filledBlock []) [localClass]) (by decide) (by decide +kernel) fun hmembers =>
        absurd hmembers (by decide)
  have hbody : Somewhere SameShell Refills (guardedBody [filledMember []])
      (guardedBody [filledMember [localClass]]) :=
    .inside (hshell _ _) (List.nil_append _).symm (List.nil_append _).symm (.here hmember)
  have hclass : Somewhere SameShell Refills (guardedClass [filledMember []])
      (guardedClass [filledMember [localClass]]) :=
    .inside (hshell _ _) List.singleton_append.symm List.singleton_append.symm hbody
  have hunit : Somewhere SameShell Refills (filledUnit []) (filledUnit [localClass]) :=
    .inside (hshell _ _) (List.nil_append _).symm (List.nil_append _).symm hclass
  obtain ⟨hentity, hreport⟩ := fileEntity_of_refilled filledSource hunit
  exact ⟨hentity "a.cpp", hreport _ _ _ _ _ rfl (Snapshot.read_ofFile _) (Snapshot.read_ofFile _)⟩

end Lowering

end NamingCheck
