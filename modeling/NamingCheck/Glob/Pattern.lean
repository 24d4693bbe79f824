/-!
Glob patterns, and what they match.

A pattern is matched against the bytes of a whole path. While it is read from left to right, the
positions of the path that it can have reached are kept as one flag for each position, the end of
the path included; every piece maps such flags to flags.
-/

namespace NamingCheck

/-- What a wildcard may stand for. -/
inductive GlobDialect where
  /-- `?` and `*` match separators too, and a class has to be closed. -/
  | plain
  /-- `?` and `*` stop at separators, and a bracket that opens no class is a plain character. -/
  | ignoreFile
  deriving DecidableEq, Repr, Inhabited

inductive GlobPiece where
  | literal (c : Char)
  | anyByte
  | anyRun
  /-- Any directories in front: `(/?|.*/)`. -/
  | leadingDirectories
  /-- Anything below a directory: `/.*`. -/
  | everythingBelow
  /-- Any directories in between: `(/|/.*/)`. -/
  | innerDirectories
  | byteClass (negated : Bool) (ranges : List (Char × Char))
  | alternatives (branches : List (List GlobPiece))
  deriving Inhabited, Repr

namespace GlobPiece

/-- A piece that matches nothing but the empty text: a group without branches. -/
def isVoid : GlobPiece → Bool
  | alternatives [] => true
  | _ => false

def literal? : GlobPiece → Option Char
  | literal c => some c
  | _ => none

def isLiteral (piece : GlobPiece) : Bool := piece.literal?.isSome

end GlobPiece

structure GlobPattern where
  dialect : GlobDialect
  pieces : List GlobPiece
  deriving Inhabited, Repr

/-- One flag for each position of the text, the end included. -/
abbrev Reach := List Bool

namespace Reach

def separatorByte : UInt8 := 0x2F

def start (text : List UInt8) : Reach :=
  true :: text.map fun _ => false

/-- Moves over one byte of the accepted kind. -/
def step (accepts : UInt8 → Bool) (text : List UInt8) (reach : Reach) : Reach :=
  false :: List.zipWith (fun here byte => here && accepts byte) reach text

/-- Moves over any number of bytes of the accepted kind. -/
def run (accepts : UInt8 → Bool) (text : List UInt8) (reach : Reach) : Reach :=
  match reach with
  | [] => []
  | first :: rest => first :: go first text rest
where
  go (before : Bool) : List UInt8 → List Bool → List Bool
    | byte :: bytes, here :: rest =>
        let now := here || (before && accepts byte)
        now :: go now bytes rest
    | _, rest => rest

def union (left right : Reach) : Reach :=
  List.zipWith or left right

def anything : UInt8 → Bool := fun _ => true

def overSeparator (text : List UInt8) (reach : Reach) : Reach :=
  step (· == separatorByte) text reach

def overBytes (bytes text : List UInt8) (reach : Reach) : Reach :=
  bytes.foldl (fun reach byte => step (· == byte) text reach) reach

def isComplete (reach : Reach) : Bool :=
  reach.getLast?.getD false

end Reach

namespace GlobPiece

/-- A character stands for its bytes; a range goes from the last byte of its first character to the
first byte of its last, and the other bytes of the two are accepted by themselves. -/
def rangeAccepts (range : Char × Char) (byte : UInt8) : Bool :=
  let low := String.utf8EncodeChar range.1
  let high := String.utf8EncodeChar range.2
  if range.1 = range.2 then low.contains byte
  else
    low.dropLast.contains byte || high.tail.contains byte
      || (low.getLast?.any (· ≤ byte) && high.head?.any (byte ≤ ·))

def classAccepts (negated : Bool) (ranges : List (Char × Char)) (byte : UInt8) : Bool :=
  ranges.any (rangeAccepts · byte) != negated

def wildcardAccepts : GlobDialect → UInt8 → Bool
  | .plain, _ => true
  | .ignoreFile, byte => byte != Reach.separatorByte

def advance (dialect : GlobDialect) (text : List UInt8) (reach : Reach) : GlobPiece → Reach
  | literal c => reach.overBytes (String.utf8EncodeChar c) text
  | anyByte => reach.step (wildcardAccepts dialect) text
  | anyRun => reach.run (wildcardAccepts dialect) text
  | leadingDirectories =>
      reach.union ((reach.run Reach.anything text).overSeparator text)
  | everythingBelow => (reach.overSeparator text).run Reach.anything text
  | innerDirectories =>
      let below := reach.overSeparator text
      below.union ((below.run Reach.anything text).overSeparator text)
  | byteClass negated ranges => reach.step (classAccepts negated ranges) text
  | alternatives [] => reach
  | alternatives (first :: others) =>
      advanceAny (advanceAll reach first) reach others
where
  advanceAll (reach : Reach) : List GlobPiece → Reach
    | [] => reach
    | piece :: pieces => advanceAll (advance dialect text reach piece) pieces
  advanceAny (reached : Reach) (reach : Reach) : List (List GlobPiece) → Reach
    | [] => reached
    | branch :: branches => advanceAny (reached.union (advanceAll reach branch)) reach branches

end GlobPiece

namespace GlobPattern

open GlobPiece (isLiteral literal?)

/-- Whether the pattern closes with an extension: plain characters from a dot on, all within one
component. -/
def closesWithExtension (pieces : List GlobPiece) : Bool :=
  let closing := (pieces.reverse.takeWhile isLiteral).filterMap literal?
  (closing.takeWhile (· != '/')).contains '.'

/-- Whether a pattern with a wildcard speaks of an extension. One that is nothing but a wildcard and
a plain ending speaks of that ending instead, unless the ending is an extension and no more. -/
def asksForExtension : List GlobPiece → Bool
  | .anyRun :: ending =>
      if ending.all isLiteral then
        match ending.filterMap literal? with
        | '.' :: extension => !extension.contains '.' && !extension.contains '/'
        | _ => false
      else closesWithExtension ending
  | pieces => closesWithExtension pieces

/-- Whether the pattern speaks of the file name at the end of a path: of all of it, or of its
extension. -/
def asksForFileName (pieces : List GlobPiece) : Bool :=
  match pieces with
  | .leadingDirectories :: rest =>
      if rest.all isLiteral then !(rest.filterMap literal?).contains '/' else asksForExtension rest
  | _ => !pieces.all isLiteral && asksForExtension pieces

/-- The parent directory `..` is no file name, so a path that ends with it has none. -/
def hasFileName (text : List UInt8) : Bool :=
  text.reverse.takeWhile (· != Reach.separatorByte) != [0x2E, 0x2E]

def matchesBytes (pattern : GlobPattern) (text : List UInt8) : Bool :=
  match pattern.pieces with
  | [.leadingDirectories] => true
  | pieces =>
      (hasFileName text || !asksForFileName pieces)
        && (GlobPiece.advance.advanceAll pattern.dialect text (Reach.start text) pieces).isComplete

def matchesPath (pattern : GlobPattern) (path : String) : Bool :=
  pattern.matchesBytes path.toUTF8.toList

end GlobPattern

end NamingCheck
