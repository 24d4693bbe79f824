import NamingCheck.Glob.Pattern

/-!
Reading glob patterns.
-/

namespace NamingCheck

inductive GlobFault where
  | unclosedClass
  | invalidRange (low high : Char)
  | unopenedGroup
  | unclosedGroup
  | danglingEscape
  deriving DecidableEq, Repr, Inhabited

def GlobFault.message : GlobFault → String
  | unclosedClass => "unclosed character class; missing ']'"
  | invalidRange low high =>
      "invalid range; '" ++ String.singleton low ++ "' > '" ++ String.singleton high ++ "'"
  | unopenedGroup =>
      "unopened alternate group; missing '\x7b' (maybe escape '\x7d' with '[\x7d]'?)"
  | unclosedGroup =>
      "unclosed alternate group; missing '\x7d' (maybe escape '\x7b' with '[\x7b]'?)"
  | danglingEscape => "dangling '\\'"

/-- A group whose closing brace is still to come. -/
structure OpenGroup where
  /-- What stands before the group, latest first. -/
  before : List GlobPiece
  /-- The finished branches, latest first. -/
  branches : List (List GlobPiece)

structure GlobReader where
  dialect : GlobDialect
  groups : List OpenGroup
  /-- The branch that is being read, latest piece first. -/
  current : List GlobPiece
  previous : Option Char
  /-- Set once a bracket has turned out to open no class. -/
  plainBrackets : Bool

namespace GlobReader

def start (dialect : GlobDialect) : GlobReader where
  dialect := dialect
  groups := []
  current := []
  previous := none
  plainBrackets := false

def push (reader : GlobReader) (last : Char) (pieces : List GlobPiece) : GlobReader :=
  { reader with
    current := pieces.reverse ++ reader.current
    previous := some last }

/-- Puts a piece in the place of the separator read last. Directories that are free already stay as
they are. -/
def replaceSeparator (reader : GlobReader) (last : Char) (piece : GlobPiece) : GlobReader :=
  let current := match reader.current with
    | .leadingDirectories :: _ => reader.current
    | .everythingBelow :: _ => reader.current
    | _ :: rest => piece :: rest
    | [] => [piece]
  { reader with
    current := current
    previous := some last }

def openGroup (reader : GlobReader) : GlobReader :=
  { reader with
    groups := ⟨reader.current, []⟩ :: reader.groups
    current := []
    previous := some '\x7b' }

/-- A branch that says nothing is no branch. -/
def addBranch (branch : List GlobPiece) (branches : List (List GlobPiece)) :
    List (List GlobPiece) :=
  if branch.all GlobPiece.isVoid then branches else branch.reverse :: branches

def closeGroup? (reader : GlobReader) : Except GlobFault GlobReader :=
  match reader.groups with
  | [] => .error .unopenedGroup
  | group :: groups =>
      .ok { reader with
        groups := groups
        current := .alternatives (addBranch reader.current group.branches).reverse :: group.before
        previous := some '\x7d' }

/-- A comma outside all groups is a plain character. -/
def comma (reader : GlobReader) : GlobReader :=
  match reader.groups with
  | [] => reader.push ',' [.literal ',']
  | group :: groups =>
      { reader with
        groups := { group with branches := addBranch reader.current group.branches } :: groups
        current := []
        previous := some ',' }

/-- Reads the ranges of a class, latest first, and what follows the closing bracket. A bracket or
dash in front is plain, and so is a dash at the end. -/
def readRanges (ranges : List (Char × Char)) (isFirst inRange : Bool) :
    List Char → Except GlobFault (List (Char × Char) × List Char)
  | [] => .error .unclosedClass
  | c :: rest =>
      if c == ']' && !isFirst then
        .ok (if inRange then ('-', '-') :: ranges else ranges, rest)
      else if c == '-' && !isFirst && !inRange then readRanges ranges false true rest
      else
        match inRange, ranges with
        | true, (low, _) :: others =>
            if c < low then .error (.invalidRange low c)
            else readRanges ((low, c) :: others) false false rest
        | _, _ => readRanges ((c, c) :: ranges) false false rest

theorem length_lt_of_readRanges {ranges found : List (Char × Char)} {isFirst inRange : Bool}
    {text remaining : List Char}
    (hread : readRanges ranges isFirst inRange text = .ok (found, remaining)) :
    remaining.length < text.length := by
  fun_induction readRanges ranges isFirst inRange text with
  | case1 => cases hread
  | case2 =>
      cases hread
      exact Nat.lt_succ_self _
  | case3 _ _ _ _ _ _ _ ih => exact Nat.lt_succ_of_lt (ih hread)
  | case4 => cases hread
  | case5 _ _ _ _ _ _ _ _ _ ih => exact Nat.lt_succ_of_lt (ih hread)
  | case6 _ _ _ _ _ _ _ _ ih => exact Nat.lt_succ_of_lt (ih hread)

def readClass (text : List Char) : Except GlobFault (GlobPiece × List Char) :=
  let negated := text.head? == some '!' || text.head? == some '^'
  (readRanges [] true false (if negated then text.tail else text)).map fun (ranges, remaining) =>
    (.byteClass negated ranges.reverse, remaining)

theorem length_lt_of_readClass {text remaining : List Char} {piece : GlobPiece}
    (hread : readClass text = .ok (piece, remaining)) : remaining.length < text.length := by
  unfold readClass at hread
  cases hranges : readRanges [] true false
      (if text.head? == some '!' || text.head? == some '^' then text.tail else text) with
  | error => simp only [hranges, Except.map, reduceCtorEq] at hread
  | ok found =>
      simp only [hranges, Except.map, Except.ok.injEq, Prod.mk.injEq] at hread
      have hlength := @length_lt_of_readRanges _ found.1 _ _ _ found.2 hranges
      rw [hread.2] at hlength
      split at hlength
      · exact Nat.lt_of_lt_of_le hlength (by rw [List.length_tail]; omega)
      · exact hlength

/-- Whether two stars stand where a component starts. -/
def atComponentStart (reader : GlobReader) : Bool :=
  reader.previous == some '/'
    || (!reader.groups.isEmpty && (reader.previous == some ',' || reader.previous == some '\x7b'))

def twoStars (reader : GlobReader) : GlobReader :=
  reader.push '*' [.anyRun, .anyRun]

/-- Two stars stand for directories if they are a whole component. The reader they lead to, and
whether the separator behind them belongs to them. -/
def doubleStar (reader : GlobReader) (next : Option Char) : GlobReader × Bool :=
  match reader.current with
  | [] =>
      match next with
      | none => (reader.push '*' [.leadingDirectories], false)
      | some '/' => (reader.push '/' [.leadingDirectories], true)
      | some _ => (reader.twoStars, false)
  | _ :: _ =>
      if !reader.atComponentStart then (reader.twoStars, false)
      else
        match next with
        | none => (reader.replaceSeparator '*' .everythingBelow, false)
        | some '/' => (reader.replaceSeparator '/' .innerDirectories, true)
        | some c =>
            if (c == ',' || c == '\x7d') && !reader.groups.isEmpty then
              (reader.replaceSeparator '*' .everythingBelow, false)
            else (reader.twoStars, false)

def finish (reader : GlobReader) : Except GlobFault (List GlobPiece) :=
  match reader.groups with
  | [] => .ok reader.current.reverse
  | _ :: _ => .error .unclosedGroup

def read (reader : GlobReader) (text : List Char) : Except GlobFault (List GlobPiece) :=
  match text with
  | [] => reader.finish
  | '?' :: rest => (reader.push '?' [.anyByte]).read rest
  | '*' :: '*' :: rest =>
      let (after, takesSeparator) := reader.doubleStar rest.head?
      after.read (if takesSeparator then rest.tail else rest)
  | '*' :: rest => (reader.push '*' [.anyRun]).read rest
  | '[' :: rest =>
      if reader.plainBrackets then (reader.push '[' [.literal '[']).read rest
      else
        match _hclass : readClass rest with
        | .ok (piece, remaining) => (reader.push ']' [piece]).read remaining
        | .error .unclosedClass =>
            match reader.dialect with
            | .plain => .error .unclosedClass
            | .ignoreFile =>
                { reader.push '[' [.literal '['] with plainBrackets := true }.read rest
        | .error fault => .error fault
  | '\x7b' :: rest => reader.openGroup.read rest
  | '\x7d' :: rest =>
      match reader.closeGroup? with
      | .ok after => after.read rest
      | .error fault => .error fault
  | ',' :: rest => reader.comma.read rest
  | '\\' :: rest =>
      match rest with
      | [] => .error .danglingEscape
      | c :: rest => (reader.push c [.literal c]).read rest
  | c :: rest => (reader.push c [.literal c]).read rest
termination_by text.length
decreasing_by
  all_goals simp only [List.length_cons]
  case _ => omega
  case _ =>
    split
    · rw [List.length_tail]
      omega
    · omega
  case _ => omega
  case _ => omega
  case _ =>
    have := length_lt_of_readClass ‹_›
    omega
  all_goals omega

end GlobReader

def GlobPattern.parse (dialect : GlobDialect) (text : String) : Except GlobFault GlobPattern :=
  ((GlobReader.start dialect).read text.toList).map fun pieces => ⟨dialect, pieces⟩

end NamingCheck
