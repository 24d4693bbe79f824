import NamingCheck.SyntaxTree.Basic
import NamingCheck.Text.Blank
import NamingCheck.Text.Parts

/-!
The names that declarators introduce.

A declarator is a tower of layers around a name. The name is that of a callable if the layer
directly around it, wrapping layers apart, is a function declarator; conversion operators have no
such layer and are recognised by themselves.
-/

namespace NamingCheck

inductive NameForm where
  | plain
  | destructor
  | conversion
  deriving DecidableEq, Repr, Inhabited

structure DeclaredName where
  name : String
  form : NameForm
  /-- The innermost scope of a qualified name: `Foo` in `ns::Foo::bar`. -/
  qualifier : Option String
  isQualified : Bool
  deriving DecidableEq, Repr, Inhabited

namespace DeclaredName

def ofForm (form : NameForm) (name : String) : DeclaredName where
  name := name
  form := form
  qualifier := none
  isQualified := false

/-- Adds a scope from the outside. The scope added first is the innermost and stays. -/
def qualify (declared : DeclaredName) (scope : Option String) : DeclaredName :=
  { declared with
    qualifier := declared.qualifier.or scope
    isQualified := true }

end DeclaredName

namespace Declarator

open Text (withoutBlanks without singleSpaced)

def operatorKeyword : List Char := "operator".toList

def isAsciiLetter (c : Char) : Bool := ('a' ≤ c && c ≤ 'z') || ('A' ≤ c && c ≤ 'Z')

/-- An operator's name has no blanks, but for one before a word: `operator==`, `operator new[]`. -/
def operatorText (text : List Char) : List Char :=
  match withoutBlanks (without operatorKeyword text) with
  | [] => operatorKeyword
  | first :: rest =>
      if isAsciiLetter first then operatorKeyword ++ ' ' :: first :: rest
      else operatorKeyword ++ first :: rest

/-- A conversion operator is named for its target type, which ends where the parameters begin. -/
def conversionText (text : List Char) : List Char :=
  operatorKeyword ++ ' ' :: singleSpaced ((without operatorKeyword text).takeWhile (· != '('))

variable (source : ByteArray)

def conversionOf (node : SyntaxNode) : DeclaredName :=
  .ofForm .conversion (String.ofList (conversionText (node.chars source)))

/-- A templated scope is named without its arguments. -/
def qualifierOf (node : SyntaxNode) : String :=
  match node.kind with
  | .templateType => ((node.child? .name).map (·.text source)).getD ""
  | _ => node.text source

/-- The name that the node itself spells. -/
def spelledName? (node : SyntaxNode) : Option DeclaredName :=
  match node.kind with
  | .identifier | .fieldIdentifier => some (.ofForm .plain (node.text source))
  | .operatorName =>
      some (.ofForm .plain (String.ofList (operatorText (node.chars source))))
  | .destructorName =>
      some (.ofForm .destructor (String.ofList (withoutBlanks (node.chars source))))
  | .operatorCast => some (conversionOf source node)
  | .templateFunction =>
      match _hname : node.child? .name with
      | none => none
      | some name => spelledName? name
  | .qualifiedIdentifier | .qualifiedOperatorCastIdentifier =>
      match _hname : node.child? .name with
      | none => none
      | some name =>
          (spelledName? name).map
            (·.qualify ((node.child? .scope).map (qualifierOf source)))
  | _ => none
termination_by node.size
decreasing_by all_goals exact SyntaxNode.size_lt_of_child? ‹_›

theorem spelledName?_eq (node : SyntaxNode) :
    spelledName? source node =
      match node.kind with
      | .identifier | .fieldIdentifier => some (.ofForm .plain (node.text source))
      | .operatorName =>
          some (.ofForm .plain (String.ofList (operatorText (node.chars source))))
      | .destructorName =>
          some (.ofForm .destructor (String.ofList (withoutBlanks (node.chars source))))
      | .operatorCast => some (conversionOf source node)
      | .templateFunction => (node.child? .name).bind (spelledName? source)
      | .qualifiedIdentifier | .qualifiedOperatorCastIdentifier =>
          ((node.child? .name).bind (spelledName? source)).map
            (·.qualify ((node.child? .scope).map (qualifierOf source)))
      | _ => none := by
  rw [spelledName?]
  split <;> first | rfl | (split <;> simp_all)

/-- The name of the callable that the declarator introduces, if it introduces one. -/
def functionName? (node : SyntaxNode) : Option DeclaredName :=
  match node.kind with
  | .functionDeclarator =>
      match _hinner : node.child? .declarator with
      | none => none
      | some inner => (spelledName? source inner).or (functionName? inner)
  | .pointerDeclarator | .referenceDeclarator | .attributedDeclarator
  | .parenthesizedDeclarator =>
      match _hinner : node.wrapped? with
      | none => none
      | some inner => functionName? inner
  | .operatorCast => some (conversionOf source node)
  | .qualifiedIdentifier | .qualifiedOperatorCastIdentifier =>
      (spelledName? source node).filter (·.form == .conversion)
  | _ => none
termination_by node.size
decreasing_by
  · exact SyntaxNode.size_lt_of_child? ‹_›
  · exact SyntaxNode.size_lt_of_wrapped? ‹_›

theorem functionName?_eq (node : SyntaxNode) :
    functionName? source node =
      match node.kind with
      | .functionDeclarator =>
          (node.child? .declarator).bind fun inner =>
            (spelledName? source inner).or (functionName? source inner)
      | .pointerDeclarator | .referenceDeclarator | .attributedDeclarator
      | .parenthesizedDeclarator => node.wrapped?.bind (functionName? source)
      | .operatorCast => some (conversionOf source node)
      | .qualifiedIdentifier | .qualifiedOperatorCastIdentifier =>
          (spelledName? source node).filter (·.form == .conversion)
      | _ => none := by
  rw [functionName?]
  split <;> first | rfl | (split <;> simp_all)

/-- The qualified name below the layers of a declarator. -/
def qualifiedName? (node : SyntaxNode) : Option SyntaxNode :=
  match node.kind with
  | .qualifiedIdentifier | .qualifiedOperatorCastIdentifier => some node
  | .functionDeclarator =>
      match _hinner : node.child? .declarator with
      | none => none
      | some inner => qualifiedName? inner
  | .pointerDeclarator | .referenceDeclarator | .attributedDeclarator
  | .parenthesizedDeclarator =>
      match _hinner : node.wrapped? with
      | none => none
      | some inner => qualifiedName? inner
  | _ => none
termination_by node.size
decreasing_by
  · exact SyntaxNode.size_lt_of_child? ‹_›
  · exact SyntaxNode.size_lt_of_wrapped? ‹_›

theorem qualifiedName?_eq (node : SyntaxNode) :
    qualifiedName? node =
      match node.kind with
      | .qualifiedIdentifier | .qualifiedOperatorCastIdentifier => some node
      | .functionDeclarator => (node.child? .declarator).bind qualifiedName?
      | .pointerDeclarator | .referenceDeclarator | .attributedDeclarator
      | .parenthesizedDeclarator => node.wrapped?.bind qualifiedName?
      | _ => none := by
  rw [qualifiedName?]
  split <;> first | rfl | (split <;> simp_all)

def hasTemplatedScope (node : SyntaxNode) : Bool :=
  (node.child? .scope).any (·.kind == .templateType)

/-- The templated scopes along a chain of nested qualified names. -/
def countTemplatedScopes (node : SyntaxNode) : Nat :=
  (if hasTemplatedScope node then 1 else 0)
    + match _hname : node.child? .name with
      | none => 0
      | some name => if name.kind.isQualified then countTemplatedScopes name else 0
termination_by node.size
decreasing_by exact SyntaxNode.size_lt_of_child? ‹_›

theorem countTemplatedScopes_eq (node : SyntaxNode) :
    countTemplatedScopes node =
      (if hasTemplatedScope node then 1 else 0)
        + (((node.child? .name).filter (·.kind.isQualified)).map countTemplatedScopes).getD 0 := by
  rw [countTemplatedScopes]
  congr 1
  split
  · simp_all
  · next name hname =>
      rw [hname, Option.filter_some]
      split <;> simp_all

/-- The templated scopes that qualify the name a declaration introduces. -/
def spentHeaders (node : SyntaxNode) : Nat :=
  match node.kind with
  | .functionDefinition | .declaration | .fieldDeclaration =>
      (((node.child? .declarator).bind qualifiedName?).map countTemplatedScopes).getD 0
  | _ => 0

end Declarator

end NamingCheck
