import NamingCheck.Glob.Expression
import NamingCheck.Glob.Parser

/-!
Sets of glob patterns. A path is matched if one of the patterns matches it.

A set is made of patterns that can each be read, and it may still fail: the expressions of the
patterns are built only now, and one whose parts lie too deep in each other is refused. How large
expressions may be is left out. Patterns that are plain but for their ends need no expression.
-/

namespace NamingCheck

/-- How a set finds out what a pattern matches. -/
inductive GlobStrategy where
  /-- By comparing letters. -/
  | letters
  /-- By its own expression, for paths with the extension that the pattern asks for. -/
  | extension
  /-- By an expression that is built with those of the other patterns. -/
  | expression
  deriving DecidableEq, Repr, Inhabited

namespace GlobPattern

open GlobPiece (isLiteral literal?)

/-- Plain characters, with anything or what is below a directory behind them. -/
def isPlainBeginning (dialect : GlobDialect) (pieces : List GlobPiece) : Bool :=
  match pieces.getLast? with
  | none => false
  | some .everythingBelow => pieces.dropLast.all isLiteral
  | some .anyRun =>
      dialect == .plain && !pieces.dropLast.isEmpty && pieces.dropLast.all isLiteral
  | some _ => pieces.all isLiteral

/-- Plain characters that are more than a separator. -/
def isPlainEnding (pieces : List GlobPiece) : Bool :=
  pieces.all isLiteral && !(pieces.filterMap literal?).isEmpty
    && pieces.filterMap literal? != ['/']

/-- An extension with nothing but a dot in it, the one in front. -/
def isPlainExtension (pieces : List GlobPiece) : Bool :=
  pieces.all isLiteral &&
    match pieces.filterMap literal? with
    | '.' :: extension => !extension.contains '.' && !extension.contains '/'
    | _ => false

/-- Whether a pattern is plain but for a wildcard at one end. A wildcard that stops at separators is
none of that kind, except in front of an extension. -/
def isPlain (pattern : GlobPattern) : Bool :=
  isPlainBeginning pattern.dialect pattern.pieces ||
    match pattern.pieces with
    | .leadingDirectories :: .anyRun :: ending =>
        if pattern.dialect == .plain then isPlainEnding ending else isPlainExtension ending
    | .leadingDirectories :: ending => !ending.isEmpty && ending.all isLiteral
    | .anyRun :: ending => pattern.dialect == .plain && isPlainEnding ending
    | _ => false

def strategy (pattern : GlobPattern) : GlobStrategy :=
  if pattern.isPlain then .letters
  else if closesWithExtension pattern.pieces then .extension
  else .expression

end GlobPattern

/-- Why patterns that can each be read make no set. -/
inductive GlobSetFault where
  /-- An expression that is built by itself, as it is written. -/
  | ownExpression (text : String)
  /-- One of the expressions that are built together, by its place among them. -/
  | sharedExpression (place : Nat)
  deriving DecidableEq, Repr, Inhabited

def GlobSetFault.message : GlobSetFault → String
  | ownExpression text => "error parsing glob '" ++ text ++ "': error parsing pattern 0"
  | sharedExpression place => "error parsing pattern " ++ toString place

/-- Why patterns cannot be used. -/
inductive PatternError where
  /-- A pattern that cannot be read. -/
  | unread (pattern : String) (fault : GlobFault)
  /-- Patterns that can each be read but make no set. -/
  | unusable (patterns : List String) (fault : GlobSetFault)
  deriving DecidableEq, Repr, Inhabited

namespace PatternError

/-- What is called invalid: the one pattern, or all of them. -/
def subject : PatternError → String
  | unread pattern _ => pattern
  | unusable patterns _ => String.intercalate "," patterns

def reason : PatternError → String
  | unread pattern fault => "error parsing glob '" ++ pattern ++ "': " ++ fault.message
  | unusable _ fault => fault.message

def message (error : PatternError) : String :=
  "invalid ignore pattern '" ++ error.subject ++ "': " ++ error.reason

end PatternError

structure PatternSet where
  patterns : List GlobPattern
  deriving Inhabited, Repr

namespace PatternSet

def compileOne (pattern : String) : Except PatternError GlobPattern :=
  (GlobPattern.parse .plain pattern).mapError (PatternError.unread pattern)

/-- The first fault that comes up when a set is made. Expressions that are built by themselves come
first. -/
def fault? (patterns : List GlobPattern) : Option GlobSetFault :=
  let own := patterns.filter (·.strategy == .extension)
  let shared := patterns.filter (·.strategy == .expression)
  ((own.find? (·.isTooDeep)).map fun pattern => .ownExpression pattern.expressionText).or
    ((shared.findIdx? (·.isTooDeep)).map .sharedExpression)

/-- Fails on the first pattern that cannot be read, or else if the patterns make no set. -/
def compile (patterns : List String) : Except PatternError PatternSet := do
  let globs ← patterns.mapM compileOne
  match fault? globs with
  | some fault => .error (.unusable patterns fault)
  | none => .ok ⟨globs⟩

def matchesPath (set : PatternSet) (path : String) : Bool :=
  set.patterns.any (·.matchesPath path)

end PatternSet

end NamingCheck
