import NamingCheck.Regex.Basic
import NamingCheck.Regex.Spacing
import NamingCheck.Text.Digits

/-!
What a backslash and the signs behind it mean.

Codes and categories in braces are not among the escapes, since no brace closes within an
expression.
-/

namespace NamingCheck.Regex

/-- The character of a code, which surrogates do not have. -/
def charOfCode? (code : Nat) : Option Char :=
  if code < 0xD800 || (0xDFFF < code && code ≤ 0x10FFFF) then some (Char.ofNat code) else none

/-- A number of so many hexadecimal digits, behind those read already. -/
def readDigits? (isSpaced : Bool) : Nat → Nat → List Char → Option (Nat × List Char)
  | 0, code, text => some (code, text)
  | count + 1, code, text =>
      match skipBlanks isSpaced text with
      | [] => none
      | c :: rest =>
          match Text.hexDigit? c with
          | none => none
          | some digit => readDigits? isSpaced count (code * 16 + digit) rest

/-- The character with a code of so many digits. -/
def readCode? (isSpaced : Bool) (count : Nat) (text : List Char) : Option (Atom × List Char) :=
  match readDigits? isSpaced count 0 text with
  | none => none
  | some (code, rest) =>
      (charOfCode? code).map fun char => (.literal { char, isShortCode := count == 2 }, rest)

def isPunctuation (c : Char) : Bool :=
  c.toNat < 0x80 && !c.isAlphanum && c != '<' && c != '>'

/-- What is escaped by one sign. -/
def Atom.ofEscape? : Char → Option Atom
  | 'd' => some (.shorthand 'd')
  | 's' => some (.shorthand 's')
  | 'w' => some (.shorthand 'w')
  | 'D' => some (.shorthand 'D')
  | 'S' => some (.shorthand 'S')
  | 'W' => some (.shorthand 'W')
  | 'A' | 'z' => some .edge
  | 'b' | 'B' | '<' | '>' => some .wordBoundary
  | 'a' => some (.literal { char := '\x07' })
  | 't' => some (.literal { char := '\t' })
  | 'n' => some (.literal { char := '\n' })
  | 'v' => some (.literal { char := '\x0b' })
  | 'f' => some (.literal { char := '\x0c' })
  | 'r' => some (.literal { char := '\r' })
  | c => if isPunctuation c then some (.literal { char := c }) else none

/-- Reads what stands behind a backslash. -/
def readEscape? (isSpaced : Bool) : List Char → Option (Atom × List Char)
  | [] => none
  | 'x' :: rest => readCode? isSpaced 2 rest
  | 'u' :: rest => readCode? isSpaced 4 rest
  | 'U' :: rest => readCode? isSpaced 8 rest
  | c :: rest =>
      if c == 'p' || c == 'P' then
        match skipBlanks isSpaced rest with
        | [] => none
        | letter :: rest => some (.category letter, rest)
      else (Atom.ofEscape? c).map fun atom => (atom, rest)

theorem length_le_of_readDigits? {isSpaced : Bool} {count code number : Nat}
    {text rest : List Char} (hread : readDigits? isSpaced count code text = some (number, rest)) :
    rest.length ≤ text.length := by
  fun_induction readDigits? isSpaced count code text with
  | case1 =>
      cases hread
      exact Nat.le_refl _
  | case2 => cases hread
  | case3 => cases hread
  | case4 _ _ _ _ _ hskip _ _ ih =>
      have hshorter := length_lt_of_skipBlanks hskip
      have hrest := ih hread
      omega

theorem length_le_of_readCode? {isSpaced : Bool} {count : Nat} {atom : Atom}
    {text rest : List Char} (hread : readCode? isSpaced count text = some (atom, rest)) :
    rest.length ≤ text.length := by
  unfold readCode? at hread
  split at hread
  · cases hread
  · next hdigits =>
      obtain ⟨_, _, heq⟩ := Option.map_eq_some_iff.1 hread
      cases heq
      exact length_le_of_readDigits? hdigits

theorem length_le_of_readEscape? {isSpaced : Bool} {atom : Atom} {text rest : List Char}
    (hread : readEscape? isSpaced text = some (atom, rest)) : rest.length ≤ text.length := by
  unfold readEscape? at hread
  split at hread
  · cases hread
  case h_5 =>
    split at hread
    · split at hread
      · cases hread
      · next hskip =>
          have hshorter := length_lt_of_skipBlanks hskip
          cases hread
          exact Nat.le_succ_of_le (Nat.le_of_lt hshorter)
    · obtain ⟨_, _, heq⟩ := Option.map_eq_some_iff.1 hread
      cases heq
      exact Nat.le_succ _
  all_goals exact Nat.le_succ_of_le (length_le_of_readCode? hread)

end NamingCheck.Regex
