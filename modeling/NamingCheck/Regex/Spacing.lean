import NamingCheck.Text.Blank

/-!
Blanks and comments between the parts of an expression. They count for nothing where the expression
is spaced, and are parts like any others elsewhere.
-/

namespace NamingCheck.Regex

/-- The text behind blanks and comments; a comment runs to the end of its line. -/
def behindBlanks (inComment : Bool) : List Char → List Char
  | [] => []
  | c :: rest =>
      if inComment then behindBlanks (c != '\n') rest
      else if Text.isBlank c then behindBlanks false rest
      else if c == '#' then behindBlanks true rest
      else c :: rest

def skipBlanks (isSpaced : Bool) (text : List Char) : List Char :=
  if isSpaced then behindBlanks false text else text

theorem length_behindBlanks_le (inComment : Bool) (text : List Char) :
    (behindBlanks inComment text).length ≤ text.length := by
  fun_induction behindBlanks inComment text with
  | case1 => exact Nat.le_refl _
  | case2 _ _ ih => exact Nat.le_succ_of_le ih
  | case3 _ _ _ _ _ ih => exact Nat.le_succ_of_le ih
  | case4 _ _ _ _ _ _ ih => exact Nat.le_succ_of_le ih
  | case5 => exact Nat.le_refl _

theorem length_skipBlanks_le (isSpaced : Bool) (text : List Char) :
    (skipBlanks isSpaced text).length ≤ text.length := by
  unfold skipBlanks
  split
  · exact length_behindBlanks_le false text
  · exact Nat.le_refl _

theorem length_lt_of_skipBlanks {isSpaced : Bool} {text rest : List Char} {c : Char}
    (hskip : skipBlanks isSpaced text = c :: rest) : rest.length < text.length := by
  have hlength := length_skipBlanks_le isSpaced text
  rw [hskip] at hlength
  exact hlength

/-- The next sign that is not blank. Of a comment it is the first sign. -/
def nextSign? (isSpaced : Bool) (text : List Char) : Option Char :=
  if isSpaced then
    match text.dropWhile Text.isBlank with
    | '#' :: comment => (comment.dropWhile Text.isBlank).head?
    | rest => rest.head?
  else text.head?

end NamingCheck.Regex
