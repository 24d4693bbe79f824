import NamingCheck.Regex.Reader

/-!
Which expressions can be used.

Text is matched as characters, or as bytes where the flag `u` is turned off. What can match other
bytes than those of ASCII is then refused, since it could split a character; and what is defined for
characters alone is refused too. Boundaries of words are refused where they are those of characters.
-/

namespace NamingCheck.Regex

/-- The greatest depth to which the parts of an expression may lie in each other. -/
def depthLimit : Nat := 250

def isCategory (letter : Char) : Bool :=
  ['C', 'L', 'M', 'N', 'P', 'S', 'Z'].contains letter.toUpper

def isAscii (c : Char) : Bool := c.toNat < 0x80

namespace Atom

/-- Whether an atom can be used where characters are matched, or else bytes. -/
def isUsable (inUnicode : Bool) : Atom → Bool
  | .literal one => inUnicode || isAscii one.char || !one.isShortCode
  | anyCharacter => inUnicode
  | edge => true
  | wordBoundary => !inUnicode
  | shorthand letter => inUnicode || letter.isLower
  | category letter => inUnicode && isCategory letter

end Atom

namespace CharacterSet

mutual

def isUsable (inUnicode : Bool) : CharacterSet → Bool
  | nothing => true
  | .literal one => inUnicode || isAscii one.char
  | range low high => low.char ≤ high.char && (inUnicode || isAscii high.char)
  | named _ isNegated => inUnicode || !isNegated
  | shorthand letter => inUnicode || letter.isLower
  | category letter => inUnicode && isCategory letter
  | bracketed isNegated inside => (inUnicode || !isNegated) && inside.isUsable inUnicode
  | union members => areUsable inUnicode members
  | operation _ left right => left.isUsable inUnicode && right.isUsable inUnicode

def areUsable (inUnicode : Bool) : List CharacterSet → Bool
  | [] => true
  | member :: members => member.isUsable inUnicode && areUsable inUnicode members

end

end CharacterSet

namespace Expression

mutual

/-- Whether characters are matched behind an expression, if it can be used itself. Flags hold to the
end of the group around them, through all its branches. -/
def unicodeBehind? (inUnicode : Bool) : Expression → Option Bool
  | empty => some inUnicode
  | .flags change => some (change.isOn .unicode inUnicode)
  | .atom part => if part.isUsable inUnicode then some inUnicode else none
  | characterClass isNegated inside =>
      if (CharacterSet.bracketed isNegated inside).isUsable inUnicode then some inUnicode else none
  | repeated inside => inside.unicodeBehind? inUnicode
  | group _ change inside =>
      (inside.unicodeBehind? (change.isOn .unicode inUnicode)).map fun _ => inUnicode
  | alternatives branches => unicodeBehindAll? inUnicode branches
  | sequence parts => unicodeBehindAll? inUnicode parts

def unicodeBehindAll? (inUnicode : Bool) : List Expression → Option Bool
  | [] => some inUnicode
  | part :: parts => (part.unicodeBehind? inUnicode).bind fun behind =>
      unicodeBehindAll? behind parts

end

def isUsable (expression : Expression) : Bool :=
  expression.depth ≤ depthLimit && expression.groupNames.Nodup
    && (expression.unicodeBehind? true).isSome

end Expression

def isUsable (text : List Char) : Bool :=
  (Expression.parse? text).any Expression.isUsable

end NamingCheck.Regex
