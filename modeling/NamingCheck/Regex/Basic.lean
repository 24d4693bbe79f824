/-!
Regular expressions as they are written.

A tree keeps the form of an expression, from which follow the depth of its parts and the names of
its groups. Nothing is matched here.
-/

namespace NamingCheck.Regex

/-- What can be turned on and off, for a group or for all that follows. -/
inductive Flag where
  | ignoreCase
  | multiLine
  | dotMatchesAll
  | swapGreed
  | unicode
  | carriageReturns
  /-- Blanks between the parts count for nothing, and `#` begins a comment. -/
  | spaced
  deriving DecidableEq, Repr, Inhabited

structure Flags where
  on : List Flag := []
  off : List Flag := []
  deriving DecidableEq, Repr, Inhabited

/-- Whether a flag is on behind these, given whether it was on before. -/
def Flags.isOn (flags : Flags) (flag : Flag) (before : Bool) : Bool :=
  flags.on.contains flag || (before && !flags.off.contains flag)

structure Literal where
  char : Char
  /-- Written as a code of two digits it is a byte where bytes are matched, else a character. -/
  isShortCode : Bool := false
  deriving DecidableEq, Repr, Inhabited

/-- A part that is read as a whole. -/
inductive Atom where
  | literal (literal : Literal)
  | anyCharacter
  /-- The beginning or the end of a line or of the text. -/
  | edge
  /-- The boundary of a word, or anything but one. -/
  | wordBoundary
  /-- The digits, blanks or characters of words (`d`, `s`, `w`), or with a capital letter all but
  them. -/
  | shorthand (letter : Char)
  | category (letter : Char)
  deriving DecidableEq, Repr, Inhabited

/-- What stands between the brackets of a class. -/
inductive CharacterSet where
  | nothing
  | literal (literal : Literal)
  | range (low high : Literal)
  | named (name : String) (isNegated : Bool)
  | shorthand (letter : Char)
  | category (letter : Char)
  | bracketed (isNegated : Bool) (inside : CharacterSet)
  | union (members : List CharacterSet)
  /-- An intersection (`&`), a difference (`-`) or a symmetric difference (`~`). -/
  | operation (sign : Char) (left right : CharacterSet)
  deriving Repr, Inhabited

inductive Expression where
  | empty
  | flags (flags : Flags)
  | atom (atom : Atom)
  | characterClass (isNegated : Bool) (inside : CharacterSet)
  | repeated (inside : Expression)
  | group (name : Option String) (flags : Flags) (inside : Expression)
  | alternatives (branches : List Expression)
  | sequence (parts : List Expression)
  deriving Repr, Inhabited

namespace CharacterSet

def ofMembers : List CharacterSet → CharacterSet
  | [] => nothing
  | [member] => member
  | members => union members

mutual

/-- The number of brackets, unions and operations around the innermost member. -/
def depth : CharacterSet → Nat
  | bracketed _ inside => inside.depth + 1
  | union members => greatestDepth members + 1
  | operation _ left right => max left.depth right.depth + 1
  | _ => 0

def greatestDepth : List CharacterSet → Nat
  | [] => 0
  | member :: members => max member.depth (greatestDepth members)

end

end CharacterSet

namespace Expression

def ofParts : List Expression → Expression
  | [] => empty
  | [part] => part
  | parts => sequence parts

def ofBranches : List Expression → Expression
  | [branch] => branch
  | branches => alternatives branches

/-- Flags set for all that follows are nothing to repeat. -/
def isRepeatable : Expression → Bool
  | empty | flags _ => false
  | _ => true

mutual

/-- The number of classes, repetitions, groups, alternatives and sequences around the innermost
part. -/
def depth : Expression → Nat
  | characterClass _ inside => inside.depth + 1
  | repeated inside => inside.depth + 1
  | group _ _ inside => inside.depth + 1
  | alternatives branches => greatestDepth branches + 1
  | sequence parts => greatestDepth parts + 1
  | _ => 0

def greatestDepth : List Expression → Nat
  | [] => 0
  | part :: parts => max part.depth (greatestDepth parts)

end

mutual

/-- The names of the groups, as often as they are given. -/
def groupNames : Expression → List String
  | repeated inside => inside.groupNames
  | group name _ inside => name.toList ++ inside.groupNames
  | alternatives branches => allGroupNames branches
  | sequence parts => allGroupNames parts
  | _ => []

def allGroupNames : List Expression → List String
  | [] => []
  | part :: parts => part.groupNames ++ allGroupNames parts

end

end Expression

end NamingCheck.Regex
