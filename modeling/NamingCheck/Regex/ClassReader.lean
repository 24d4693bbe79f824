import NamingCheck.Regex.Escape

/-!
Reading the classes of an expression, from their opening to their closing bracket.

Classes stand within classes. Two signs `&&`, `--` or `~~` join what is before them with what
follows up to the next such signs; no operator binds closer than another, and they are taken from
left to right.
-/

namespace NamingCheck.Regex

/-- The classes that have names. -/
def classNames : List String :=
  ["alnum", "alpha", "ascii", "blank", "cntrl", "digit", "graph", "lower", "print", "punct",
    "space", "upper", "word", "xdigit"]

/-- A class whose closing bracket is still to come. -/
structure OpenClass where
  isNegated : Bool
  /-- All that is before the last operator, and that operator. -/
  left : Option (CharacterSet × Char) := none
  /-- The members since then, latest first. -/
  members : List CharacterSet := []
  /-- Nothing but dashes has been read. -/
  isFresh : Bool := true

namespace OpenClass

def add (opened : OpenClass) (member : CharacterSet) : OpenClass :=
  { opened with members := member :: opened.members, isFresh := false }

/-- Dashes in front are members. -/
def addDash (opened : OpenClass) : OpenClass :=
  { opened with members := .literal { char := '-' } :: opened.members }

def inside (opened : OpenClass) : CharacterSet :=
  let right := CharacterSet.ofMembers opened.members.reverse
  match opened.left with
  | none => right
  | some (left, sign) => .operation sign left right

def operate (opened : OpenClass) (sign : Char) : OpenClass :=
  { isNegated := opened.isNegated, left := some (opened.inside, sign), isFresh := false }

end OpenClass

/-- A character or an escape that can be a member of a class. -/
def readMember? (isSpaced : Bool) : List Char → Option (CharacterSet × List Char)
  | [] => none
  | '\\' :: rest =>
      match readEscape? isSpaced rest with
      | some (.literal literal, rest) => some (.literal literal, rest)
      | some (.shorthand letter, rest) => some (.shorthand letter, rest)
      | some (.category letter, rest) => some (.category letter, rest)
      | _ => none
  | c :: rest => some (.literal { char := c }, rest)

/-- A member, or the range from one to another; only single characters bound a range. Before a
closing bracket or another dash a dash opens no range. -/
def readRange? (isSpaced : Bool) (text : List Char) : Option (CharacterSet × List Char) :=
  match readMember? isSpaced text with
  | none => none
  | some (first, rest) =>
      match skipBlanks isSpaced rest with
      | '-' :: behind =>
          if [some ']', some '-'].contains (nextSign? isSpaced behind) then some (first, rest)
          else
            match first, readMember? isSpaced (skipBlanks isSpaced behind) with
            | .literal low, some (.literal high, rest) => some (.range low high, rest)
            | _, _ => none
      | _ => some (first, rest)

/-- The named class whose name begins here and ends before a colon and a bracket. -/
def readName? (isNegated : Bool) (text : List Char) : Option (CharacterSet × List Char) :=
  let name := String.ofList (text.takeWhile (· != ':'))
  match text.dropWhile (· != ':') with
  | ':' :: ']' :: rest =>
      if classNames.contains name then some (.named name isNegated, rest) else none
  | _ => none

/-- A class by its name between colons, behind the opening bracket. -/
def readNamed? : List Char → Option (CharacterSet × List Char)
  | ':' :: '^' :: rest => readName? true rest
  | ':' :: rest => readName? false rest
  | _ => none

/-- What opens a class behind its bracket. -/
def openClass (isSpaced : Bool) (text : List Char) : OpenClass × List Char :=
  match skipBlanks isSpaced text with
  | '^' :: rest => ({ isNegated := true }, rest)
  | rest => ({ isNegated := false }, rest)

theorem length_lt_of_readMember? {isSpaced : Bool} {member : CharacterSet} {text rest : List Char}
    (hread : readMember? isSpaced text = some (member, rest)) : rest.length < text.length := by
  unfold readMember? at hread
  split at hread
  · cases hread
  · split at hread
    case h_4 => cases hread
    all_goals
      next hescape =>
        cases hread
        exact Nat.lt_succ_of_le (length_le_of_readEscape? hescape)
  · cases hread
    exact Nat.lt_succ_self _

theorem length_lt_of_readRange? {isSpaced : Bool} {member : CharacterSet} {text rest : List Char}
    (hread : readRange? isSpaced text = some (member, rest)) : rest.length < text.length := by
  unfold readRange? at hread
  split at hread
  · cases hread
  · next hfirst =>
      have hshorter := length_lt_of_readMember? hfirst
      split at hread
      · next behind hskip =>
          have hskipped := length_lt_of_skipBlanks hskip
          have hbehind := length_skipBlanks_le isSpaced behind
          split at hread
          · cases hread
            exact hshorter
          · split at hread
            · next hlast =>
                cases hread
                have := length_lt_of_readMember? hlast
                omega
            · cases hread
      · cases hread
        exact hshorter

theorem length_lt_of_readName? {isNegated : Bool} {member : CharacterSet} {text rest : List Char}
    (hread : readName? isNegated text = some (member, rest)) : rest.length < text.length := by
  have hdropped := (List.dropWhile_sublist (· != ':') (l := text)).length_le
  unfold readName? at hread
  dsimp only at hread
  split at hread
  · next hdrop =>
      rw [hdrop, List.length_cons, List.length_cons] at hdropped
      split at hread
      · obtain ⟨_, rfl⟩ := Prod.mk.inj (Option.some.inj hread)
        omega
      · cases hread
  · cases hread

theorem length_lt_of_readNamed? {member : CharacterSet} {text rest : List Char}
    (hread : readNamed? text = some (member, rest)) : rest.length < text.length := by
  unfold readNamed? at hread
  split at hread
  · have := length_lt_of_readName? hread
    simp only [List.length_cons]
    omega
  · exact Nat.lt_succ_of_lt (length_lt_of_readName? hread)
  · cases hread

theorem length_openClass_le (isSpaced : Bool) (text : List Char) :
    (openClass isSpaced text).2.length ≤ text.length := by
  have hskip := length_skipBlanks_le isSpaced text
  unfold openClass
  split
  · next hrest =>
      rw [hrest, List.length_cons] at hskip
      exact Nat.le_of_succ_le hskip
  · exact hskip

/-- Reads on in a class, within others from the inside out, to the bracket that closes the last. A
bracket cannot close a class that has no members yet, so there it is a member. -/
def readClassBehind? (isSpaced : Bool) (opened : OpenClass) (around : List OpenClass)
    (text : List Char) : Option (Expression × List Char) :=
  match _hskip : skipBlanks isSpaced text with
  | [] => none
  | c :: rest =>
      if c == '-' && opened.isFresh then
        readClassBehind? isSpaced opened.addDash around rest
      else if c == ']' then
        if opened.isFresh && opened.members.isEmpty then
          readClassBehind? isSpaced (opened.add (.literal { char := c })) around rest
        else
          match around with
          | [] => some (.characterClass opened.isNegated opened.inside, rest)
          | outer :: others =>
              readClassBehind? isSpaced
                (outer.add (.bracketed opened.isNegated opened.inside)) others rest
      else if c == '[' then
        match _hnamed : readNamed? rest with
        | some (member, behind) => readClassBehind? isSpaced (opened.add member) around behind
        | none =>
            readClassBehind? isSpaced (openClass isSpaced rest).1 (opened :: around)
              (openClass isSpaced rest).2
      else if ['&', '-', '~'].contains c && rest.head? == some c then
        readClassBehind? isSpaced (opened.operate c) around rest.tail
      else
        match _hrange : readRange? isSpaced (c :: rest) with
        | none => none
        | some (member, behind) => readClassBehind? isSpaced (opened.add member) around behind
termination_by text.length
decreasing_by
  all_goals have hskipped := length_lt_of_skipBlanks _hskip
  · exact hskipped
  · exact hskipped
  · exact hskipped
  · have := length_lt_of_readNamed? ‹_›
    omega
  · have := length_openClass_le isSpaced rest
    omega
  · have := List.length_tail (l := rest)
    omega
  · have := length_lt_of_readRange? ‹_›
    rw [List.length_cons] at this
    omega

/-- Reads a class behind its opening bracket, and what is behind the closing one. -/
def readClass? (isSpaced : Bool) (text : List Char) : Option (Expression × List Char) :=
  readClassBehind? isSpaced (openClass isSpaced text).1 [] (openClass isSpaced text).2

theorem length_lt_of_readClassBehind? {isSpaced : Bool} {opened : OpenClass}
    {around : List OpenClass} {expression : Expression} {text rest : List Char}
    (hread : readClassBehind? isSpaced opened around text = some (expression, rest)) :
    rest.length < text.length := by
  fun_induction readClassBehind? isSpaced opened around text with
  | case1 => cases hread
  | case2 _ _ _ _ _ hskip _ ih => exact Nat.lt_trans (ih hread) (length_lt_of_skipBlanks hskip)
  | case3 _ _ _ _ _ hskip _ _ _ ih => exact Nat.lt_trans (ih hread) (length_lt_of_skipBlanks hskip)
  | case4 _ _ _ _ hskip =>
      cases hread
      exact length_lt_of_skipBlanks hskip
  | case5 _ _ _ _ hskip _ _ _ _ _ ih =>
      exact Nat.lt_trans (ih hread) (length_lt_of_skipBlanks hskip)
  | case6 _ _ _ _ _ hskip _ _ _ _ _ hnamed ih =>
      have hskipped := length_lt_of_skipBlanks hskip
      have hbehind := length_lt_of_readNamed? hnamed
      have hrest := ih hread
      omega
  | case7 _ _ _ _ behind hskip _ _ _ _ ih =>
      have hskipped := length_lt_of_skipBlanks hskip
      have hbehind := length_openClass_le isSpaced behind
      have hrest := ih hread
      omega
  | case8 _ _ _ _ _ hskip _ _ _ _ ih =>
      have hskipped := length_lt_of_skipBlanks hskip
      have hrest := ih hread
      rw [List.length_tail] at hrest
      omega
  | case9 => cases hread
  | case10 _ _ text _ _ hskip _ _ _ _ _ _ hrange ih =>
      have hskipped := length_skipBlanks_le isSpaced text
      rw [hskip] at hskipped
      have hbehind := length_lt_of_readRange? hrange
      have hrest := ih hread
      omega

theorem length_lt_of_readClass? {isSpaced : Bool} {expression : Expression}
    {text rest : List Char} (hread : readClass? isSpaced text = some (expression, rest)) :
    rest.length < text.length :=
  Nat.lt_of_lt_of_le (length_lt_of_readClassBehind? hread) (length_openClass_le isSpaced text)

end NamingCheck.Regex
