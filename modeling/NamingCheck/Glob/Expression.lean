import NamingCheck.Glob.Pattern
import NamingCheck.Regex.Usable

/-!
The regular expressions that stand for glob patterns.

Expressions match bytes. Of an expression there is the text and, apart from it, the form that the
text has when it is read, from which follows how deep its parts lie in each other.
-/

namespace NamingCheck

namespace GlobPiece

open Regex (CharacterSet Expression Literal)

/-! ### The text -/

/-- The characters that stand for themselves only behind a backslash. -/
def expressionMarks : List Char := "\\.+*?()|[]\x7b\x7d^$#&-~".toList

def byteText (byte : UInt8) : String :=
  let c := Char.ofNat byte.toNat
  if 0x80 ≤ byte then "\\x" ++ String.ofList (Nat.toDigits 16 byte.toNat)
  else if expressionMarks.contains c then "\\" ++ String.singleton c
  else String.singleton c

def characterText (c : Char) : String :=
  String.join ((String.utf8EncodeChar c).map byteText)

def rangeText (range : Char × Char) : String :=
  if range.1 = range.2 then characterText range.1
  else characterText range.1 ++ "-" ++ characterText range.2

def wildcardText : GlobDialect → String
  | .plain => "."
  | .ignoreFile => "[^/]"

def expressionText (dialect : GlobDialect) : GlobPiece → String
  | literal c => characterText c
  | anyByte => wildcardText dialect
  | anyRun => wildcardText dialect ++ "*"
  | leadingDirectories => "(?:/?|.*/)"
  | everythingBelow => "/.*"
  | innerDirectories => "(?:/|/.*/)"
  | byteClass negated ranges =>
      "[" ++ (if negated then "^" else "") ++ String.join (ranges.map rangeText) ++ "]"
  | alternatives [] => ""
  | alternatives (first :: others) =>
      "(?:" ++ String.intercalate "|" (branchTexts (first :: others)) ++ ")"
where
  allText : List GlobPiece → String
    | [] => ""
    | piece :: pieces => expressionText dialect piece ++ allText pieces
  branchTexts : List (List GlobPiece) → List String
    | [] => []
    | branch :: branches => allText branch :: branchTexts branches

/-! ### The form -/

def byteLiteral (byte : UInt8) : Literal where
  char := Char.ofNat byte.toNat
  isShortCode := 0x80 ≤ byte

def byteLiterals (c : Char) : List Literal :=
  (String.utf8EncodeChar c).map byteLiteral

/-- The dash of a range stands between the last byte of one character and the first of the other. -/
def rangeMembers (range : Char × Char) : List CharacterSet :=
  let low := byteLiterals range.1
  let high := byteLiterals range.2
  if range.1 = range.2 then low.map .literal
  else
    match low.getLast?, high with
    | some last, first :: rest =>
        low.dropLast.map .literal ++ .range last first :: rest.map .literal
    | _, _ => []

def separator : Expression := .atom (.literal { char := '/' })

def anything : Expression := .atom .anyCharacter

def wildcard : GlobDialect → Expression
  | .plain => anything
  | .ignoreFile => .characterClass true (.literal { char := '/' })

/-- The parts that a piece adds to an expression. -/
def expressionParts (dialect : GlobDialect) : GlobPiece → List Expression
  | literal c => (byteLiterals c).map fun byte => .atom (.literal byte)
  | anyByte => [wildcard dialect]
  | anyRun => [.repeated (wildcard dialect)]
  | leadingDirectories =>
      [.group none {}
        (.alternatives [.repeated separator, .sequence [.repeated anything, separator]])]
  | everythingBelow => [separator, .repeated anything]
  | innerDirectories =>
      [.group none {}
        (.alternatives [separator, .sequence [separator, .repeated anything, separator]])]
  | byteClass negated ranges =>
      [.characterClass negated (.ofMembers (ranges.flatMap rangeMembers))]
  | alternatives [] => []
  | alternatives (first :: others) =>
      [.group none {} (.ofBranches (branchForms (first :: others)))]
where
  allParts : List GlobPiece → List Expression
    | [] => []
    | piece :: pieces => expressionParts dialect piece ++ allParts pieces
  branchForms : List (List GlobPiece) → List Expression
    | [] => []
    | branch :: branches => .ofParts (allParts branch) :: branchForms branches

end GlobPiece

namespace GlobPattern

open Regex (Expression)

def expressionText (pattern : GlobPattern) : String :=
  let body := match pattern.pieces with
    | [.leadingDirectories] => ".*"
    | pieces => GlobPiece.expressionText.allText pattern.dialect pieces
  "(?-u)^" ++ body ++ "$"

def expression (pattern : GlobPattern) : Expression :=
  let body := match pattern.pieces with
    | [.leadingDirectories] => [.repeated GlobPiece.anything]
    | pieces => GlobPiece.expressionParts.allParts pattern.dialect pieces
  .sequence (.flags { off := [.unicode] } :: .atom .edge :: body ++ [.atom .edge])

/-- Whether the expression is refused because its parts lie too deep in each other. -/
def isTooDeep (pattern : GlobPattern) : Bool :=
  Regex.depthLimit < pattern.expression.depth

end GlobPattern

end NamingCheck
