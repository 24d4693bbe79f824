import NamingCheck.Regex.ClassReader
import NamingCheck.Text.Alphanumeric
import NamingCheck.Text.Parts

/-!
Reading expressions.

Groups are kept on a stack while their closing parentheses are still to come. An expression holds no
closing brace, so an opening one, which would begin a count, has no place outside of classes.
-/

namespace NamingCheck.Regex

def Flag.ofLetter? : Char → Option Flag
  | 'i' => some .ignoreCase
  | 'm' => some .multiLine
  | 's' => some .dotMatchesAll
  | 'U' => some .swapGreed
  | 'u' => some .unicode
  | 'R' => some .carriageReturns
  | 'x' => some .spaced
  | _ => none

/-- The flags before a dash are turned on and those behind it off, each of them once. -/
def Flags.ofLetters? (letters : List Char) : Option Flags := do
  let (on, off) ←
    match Text.splitAt '-' letters with
    | [on] => some (on, [])
    | [on, off] => if off.isEmpty then none else some (on, off)
    | _ => none
  let flags := { on := ← on.mapM Flag.ofLetter?, off := ← off.mapM Flag.ofLetter? }
  if (flags.on ++ flags.off).Nodup then return flags else none

/-- The name of a group starts with a letter of any script or an underscore. -/
def isGroupName : List Char → Bool
  | [] => false
  | first :: rest =>
      (first == '_' || Text.isAlphabetic first)
        && rest.all fun c => ['_', '.', '[', ']'].contains c || Text.isAlphanumeric c

/-- What an opening parenthesis is the beginning of. -/
inductive Opening where
  | group (name : Option String) (flags : Flags)
  /-- Flags for all that follows in the group around. -/
  | flags (flags : Flags)

def readGroupName? (text : List Char) : Option (Opening × List Char) :=
  match text.dropWhile (· != '>') with
  | [] => none
  | _ :: rest =>
      let name := text.takeWhile (· != '>')
      if isGroupName name then some (.group (some (String.ofList name)) {}, rest) else none

def endsFlags (c : Char) : Bool := c == ':' || c == ')'

def readFlags? (text : List Char) : Option (Opening × List Char) :=
  match Flags.ofLetters? (text.takeWhile (!endsFlags ·)), text.dropWhile (!endsFlags ·) with
  | some flags, ':' :: rest => some (.group none flags, rest)
  | some flags, _ :: rest => if flags == {} then none else some (.flags flags, rest)
  | _, _ => none

/-- Reads what stands behind an opening parenthesis. -/
def readOpening? (isSpaced : Bool) (text : List Char) : Option (Opening × List Char) :=
  match skipBlanks isSpaced text with
  | '?' :: 'P' :: '<' :: rest => readGroupName? rest
  | '?' :: '<' :: rest => readGroupName? rest
  | '?' :: rest => readFlags? rest
  | rest => some (.group none {}, rest)

theorem length_le_of_readGroupName? {opening : Opening} {text rest : List Char}
    (hread : readGroupName? text = some (opening, rest)) : rest.length ≤ text.length := by
  have hdropped := (List.dropWhile_sublist (· != '>') (l := text)).length_le
  unfold readGroupName? at hread
  split at hread
  · cases hread
  · next hdrop =>
      rw [hdrop, List.length_cons] at hdropped
      dsimp only at hread
      split at hread
      · cases hread
        exact Nat.le_of_succ_le hdropped
      · cases hread

theorem length_le_of_readFlags? {opening : Opening} {text rest : List Char}
    (hread : readFlags? text = some (opening, rest)) : rest.length ≤ text.length := by
  have hdropped := (List.dropWhile_sublist (!endsFlags ·) (l := text)).length_le
  unfold readFlags? at hread
  split at hread
  · next hdrop =>
      cases hread
      rw [hdrop, List.length_cons] at hdropped
      exact Nat.le_of_succ_le hdropped
  · next hdrop =>
      rw [hdrop, List.length_cons] at hdropped
      split at hread
      · cases hread
      · cases hread
        exact Nat.le_of_succ_le hdropped
  · cases hread

theorem length_le_of_readOpening? {isSpaced : Bool} {opening : Opening} {text rest : List Char}
    (hread : readOpening? isSpaced text = some (opening, rest)) : rest.length ≤ text.length := by
  have hskipped := length_skipBlanks_le isSpaced text
  unfold readOpening? at hread
  split at hread
  · next hskip =>
      rw [hskip] at hskipped
      have hbehind := length_le_of_readGroupName? hread
      simp only [List.length_cons] at hskipped
      omega
  · next hskip =>
      rw [hskip] at hskipped
      have hbehind := length_le_of_readGroupName? hread
      simp only [List.length_cons] at hskipped
      omega
  · next hskip =>
      rw [hskip] at hskipped
      have hbehind := length_le_of_readFlags? hread
      simp only [List.length_cons] at hskipped
      omega
  · cases hread
    exact hskipped

/-- The branches of an expression that is being read. -/
structure Branches where
  /-- The finished branches, latest first. -/
  finished : List Expression := []
  /-- The parts of the branch that is being read, latest first. -/
  parts : List Expression := []

namespace Branches

def add (branches : Branches) (part : Expression) : Branches :=
  { branches with parts := part :: branches.parts }

/-- A new branch begins. -/
def next (branches : Branches) : Branches :=
  { finished := .ofParts branches.parts.reverse :: branches.finished }

def expression (branches : Branches) : Expression :=
  .ofBranches branches.next.finished.reverse

/-- The part read last may occur more than once, or not at all. -/
def repeatLast? (branches : Branches) : Option Branches :=
  match branches.parts with
  | [] => none
  | last :: parts =>
      if last.isRepeatable then some { branches with parts := .repeated last :: parts } else none

end Branches

/-- A group whose closing parenthesis is still to come, and what stands around it. -/
structure OpenGroup where
  name : Option String
  flags : Flags
  around : Branches
  isSpacedAround : Bool

structure Reader where
  groups : List OpenGroup := []
  branches : Branches := {}
  isSpaced : Bool := false

namespace Reader

def add (reader : Reader) (part : Expression) : Reader :=
  { reader with branches := reader.branches.add part }

def begin (reader : Reader) : Opening → Reader
  | .group name flags =>
      { groups := ⟨name, flags, reader.branches, reader.isSpaced⟩ :: reader.groups
        isSpaced := flags.isOn .spaced reader.isSpaced }
  | .flags flags =>
      { reader.add (.flags flags) with isSpaced := flags.isOn .spaced reader.isSpaced }

def closeGroup? (reader : Reader) : Option Reader :=
  match reader.groups with
  | [] => none
  | group :: groups =>
      some
        { groups
          branches := group.around.add (.group group.name group.flags reader.branches.expression)
          isSpaced := group.isSpacedAround }

/-- Reads a part or a sign that begins with the given character. -/
def step? (reader : Reader) (c : Char) (rest : List Char) : Option (Reader × List Char) :=
  match c with
  | '(' =>
      (readOpening? reader.isSpaced rest).map fun (opening, rest) => (reader.begin opening, rest)
  | ')' => reader.closeGroup?.map fun after => (after, rest)
  | '|' => some ({ reader with branches := reader.branches.next }, rest)
  | '[' => (readClass? reader.isSpaced rest).map fun (part, rest) => (reader.add part, rest)
  | '\\' =>
      (readEscape? reader.isSpaced rest).map fun (atom, rest) => (reader.add (.atom atom), rest)
  | '.' => some (reader.add (.atom .anyCharacter), rest)
  | '^' | '$' => some (reader.add (.atom .edge), rest)
  | '\x7b' => none
  | c =>
      if c == '?' || c == '*' || c == '+' then
        reader.branches.repeatLast?.map fun branches =>
          ({ reader with branches }, if rest.head? == some '?' then rest.tail else rest)
      else some (reader.add (.atom (.literal { char := c })), rest)

theorem length_le_of_step? {reader after : Reader} {c : Char} {rest remaining : List Char}
    (hstep : reader.step? c rest = some (after, remaining)) :
    remaining.length ≤ rest.length := by
  unfold step? at hstep
  split at hstep
  · obtain ⟨⟨_, _⟩, hread, heq⟩ := Option.map_eq_some_iff.1 hstep
    cases heq
    exact length_le_of_readOpening? hread
  · obtain ⟨_, _, heq⟩ := Option.map_eq_some_iff.1 hstep
    cases heq
    exact Nat.le_refl _
  · cases hstep
    exact Nat.le_refl _
  · obtain ⟨⟨_, _⟩, hread, heq⟩ := Option.map_eq_some_iff.1 hstep
    cases heq
    exact Nat.le_of_lt (length_lt_of_readClass? hread)
  · obtain ⟨⟨_, _⟩, hread, heq⟩ := Option.map_eq_some_iff.1 hstep
    cases heq
    exact length_le_of_readEscape? hread
  · cases hstep
    exact Nat.le_refl _
  · cases hstep
    exact Nat.le_refl _
  · cases hstep
    exact Nat.le_refl _
  · cases hstep
  · split at hstep
    · obtain ⟨_, _, heq⟩ := Option.map_eq_some_iff.1 hstep
      cases heq
      split
      · rw [List.length_tail]
        exact Nat.sub_le _ _
      · exact Nat.le_refl _
    · cases hstep
      exact Nat.le_refl _

def finish? (reader : Reader) : Option Expression :=
  match reader.groups with
  | [] => some reader.branches.expression
  | _ :: _ => none

def read? (reader : Reader) (text : List Char) : Option Expression :=
  match _hskip : skipBlanks reader.isSpaced text with
  | [] => reader.finish?
  | c :: rest =>
      match _hstep : reader.step? c rest with
      | none => none
      | some (after, remaining) => after.read? remaining
termination_by text.length
decreasing_by
  exact Nat.lt_of_le_of_lt (length_le_of_step? _hstep) (length_lt_of_skipBlanks _hskip)

end Reader

def Expression.parse? (text : List Char) : Option Expression :=
  Reader.read? {} text

end NamingCheck.Regex
