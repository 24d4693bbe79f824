import NamingCheck.Json.Basic
import NamingCheck.Text.Digits

/-!
The tokens of a JSON text. White space separates tokens and is otherwise dropped, so two texts with
the same tokens hold the same value.
-/

namespace NamingCheck.Json

inductive Token where
  | openArray
  | closeArray
  | openObject
  | closeObject
  | comma
  | colon
  | null
  | bool (value : Bool)
  | number (literal : String)
  | string (codes : List Nat)
  deriving DecidableEq, Repr

namespace Token

def isSpace (c : Char) : Bool := c == ' ' || c == '\t' || c == '\n' || c == '\r'

def simpleEscape? : Char → Option Nat
  | '"' => some 0x22
  | '\\' => some 0x5C
  | '/' => some 0x2F
  | 'b' => some 0x08
  | 'f' => some 0x0C
  | 'n' => some 0x0A
  | 'r' => some 0x0D
  | 't' => some 0x09
  | _ => none

def fourHexDigits? (a b c d : Char) : Option Nat := do
  let high := (← Text.hexDigit? a) * 16 + (← Text.hexDigit? b)
  let low := (← Text.hexDigit? c) * 16 + (← Text.hexDigit? d)
  return high * 256 + low

/-- Reads the codes of a string behind those found so far, the latest of which comes first, up to
the closing quote; and what follows the quote. -/
def scanCodes? (found : List Nat) : List Char → Option (List Nat × List Char)
  | [] => none
  | '"' :: rest => some (found.reverse, rest)
  | '\\' :: 'u' :: a :: b :: c :: d :: rest =>
      match fourHexDigits? a b c d with
      | none => none
      | some code => scanCodes? (code :: found) rest
  | '\\' :: escape :: rest =>
      match simpleEscape? escape with
      | none => none
      | some code => scanCodes? (code :: found) rest
  | plain :: rest =>
      if plain.toNat < 0x20 || plain == '\\' then none
      else scanCodes? (plain.toNat :: found) rest

def scanString? (text : List Char) : Option (List Nat × List Char) := scanCodes? [] text

/-- One digit or more, and what follows them. -/
def scanDigits? (text : List Char) : Option (List Char × List Char) :=
  match text.takeWhile Char.isDigit with
  | [] => none
  | digits => some (digits, text.dropWhile Char.isDigit)

/-- A whole part is zero or starts with another digit. -/
def scanWhole? : List Char → Option (List Char × List Char)
  | '0' :: rest => some (['0'], rest)
  | text => scanDigits? text

def scanFraction? : List Char → Option (List Char × List Char)
  | '.' :: rest => (scanDigits? rest).map fun (digits, remaining) => ('.' :: digits, remaining)
  | text => some ([], text)

def scanExponent? : List Char → Option (List Char × List Char)
  | mark :: rest =>
      if mark == 'e' || mark == 'E' then
        match rest with
        | sign :: others =>
            if sign == '+' || sign == '-' then
              (scanDigits? others).map fun (digits, remaining) =>
                (mark :: sign :: digits, remaining)
            else
              (scanDigits? rest).map fun (digits, remaining) => (mark :: digits, remaining)
        | [] => none
      else some ([], mark :: rest)
  | [] => some ([], [])

def scanUnsigned? (text : List Char) : Option (List Char × List Char) := do
  let (whole, afterWhole) ← scanWhole? text
  let (fraction, afterFraction) ← scanFraction? afterWhole
  let (exponent, remaining) ← scanExponent? afterFraction
  return (whole ++ fraction ++ exponent, remaining)

def scanNumber? : List Char → Option (List Char × List Char)
  | '-' :: rest => (scanUnsigned? rest).map fun (literal, remaining) => ('-' :: literal, remaining)
  | text => scanUnsigned? text

/-- The token at the front of a text that does not start with white space. -/
def scanOne? : List Char → Option (Token × List Char)
  | '[' :: rest => some (.openArray, rest)
  | ']' :: rest => some (.closeArray, rest)
  | '\x7b' :: rest => some (.openObject, rest)
  | '\x7d' :: rest => some (.closeObject, rest)
  | ',' :: rest => some (.comma, rest)
  | ':' :: rest => some (.colon, rest)
  | '"' :: rest => (scanString? rest).map fun (codes, remaining) => (.string codes, remaining)
  | 'n' :: 'u' :: 'l' :: 'l' :: rest => some (.null, rest)
  | 't' :: 'r' :: 'u' :: 'e' :: rest => some (.bool true, rest)
  | 'f' :: 'a' :: 'l' :: 's' :: 'e' :: rest => some (.bool false, rest)
  | text => (scanNumber? text).map fun (literal, remaining) =>
      (.number (String.ofList literal), remaining)

theorem length_lt_of_scanCodes? {found codes : List Nat} {text remaining : List Char}
    (hscan : scanCodes? found text = some (codes, remaining)) :
    remaining.length < text.length := by
  fun_induction scanCodes? found text with
  | case1 => cases hscan
  | case2 =>
      cases hscan
      exact Nat.lt_succ_self _
  | case3 => cases hscan
  | case4 _ _ _ _ _ rest _ _ ih =>
      have := ih hscan
      simp only [List.length_cons]
      omega
  | case5 => cases hscan
  | case6 _ _ rest _ _ _ ih =>
      have := ih hscan
      simp only [List.length_cons]
      omega
  | case7 => cases hscan
  | case8 _ _ rest _ _ _ _ ih => exact Nat.lt_succ_of_lt (ih hscan)

theorem length_dropWhile_le (test : Char → Bool) (text : List Char) :
    (text.dropWhile test).length ≤ text.length :=
  (List.dropWhile_sublist test).length_le

theorem length_lt_of_scanDigits? {text digits remaining : List Char}
    (hscan : scanDigits? text = some (digits, remaining)) : remaining.length < text.length := by
  cases text with
  | nil => cases hscan
  | cons first rest =>
      unfold scanDigits? at hscan
      split at hscan
      · cases hscan
      · next hdigits =>
          cases hscan
          by_cases hfirst : first.isDigit
          · rw [List.dropWhile_cons_of_pos hfirst, List.length_cons]
            have := length_dropWhile_le Char.isDigit rest
            omega
          · rw [List.takeWhile_cons_of_neg hfirst] at hdigits
            exact absurd rfl hdigits

theorem length_lt_of_scanWhole? {text digits remaining : List Char}
    (hscan : scanWhole? text = some (digits, remaining)) : remaining.length < text.length := by
  unfold scanWhole? at hscan
  split at hscan
  · cases hscan
    exact Nat.lt_succ_self _
  · exact length_lt_of_scanDigits? hscan

theorem length_le_of_scanFraction? {text digits remaining : List Char}
    (hscan : scanFraction? text = some (digits, remaining)) :
    remaining.length ≤ text.length := by
  unfold scanFraction? at hscan
  split at hscan
  · obtain ⟨⟨_, _⟩, hdigits, heq⟩ := Option.map_eq_some_iff.1 hscan
    cases heq
    have := length_lt_of_scanDigits? hdigits
    simp only [List.length_cons]
    omega
  · cases hscan
    exact Nat.le_refl _

theorem length_le_of_scanExponent? {text digits remaining : List Char}
    (hscan : scanExponent? text = some (digits, remaining)) :
    remaining.length ≤ text.length := by
  unfold scanExponent? at hscan
  split at hscan
  · split at hscan
    · split at hscan
      · split at hscan
        · obtain ⟨⟨_, _⟩, hdigits, heq⟩ := Option.map_eq_some_iff.1 hscan
          cases heq
          have := length_lt_of_scanDigits? hdigits
          simp only [List.length_cons]
          omega
        · obtain ⟨⟨_, _⟩, hdigits, heq⟩ := Option.map_eq_some_iff.1 hscan
          cases heq
          have := length_lt_of_scanDigits? hdigits
          simp only [List.length_cons] at this ⊢
          omega
      · cases hscan
    · cases hscan
      exact Nat.le_refl _
  · cases hscan
    exact Nat.le_refl _

theorem length_lt_of_scanUnsigned? {text literal remaining : List Char}
    (hscan : scanUnsigned? text = some (literal, remaining)) :
    remaining.length < text.length := by
  simp only [scanUnsigned?, Option.bind_eq_bind, Option.bind_eq_some_iff, Option.pure_def,
    Option.some.injEq, Prod.mk.injEq] at hscan
  obtain ⟨⟨_, _⟩, hwhole, ⟨_, _⟩, hfraction, ⟨_, _⟩, hexponent, _, rfl⟩ := hscan
  have hwhole := length_lt_of_scanWhole? hwhole
  have hfraction := length_le_of_scanFraction? hfraction
  have hexponent := length_le_of_scanExponent? hexponent
  dsimp only at hfraction hexponent ⊢
  omega

theorem length_lt_of_scanNumber? {text literal remaining : List Char}
    (hscan : scanNumber? text = some (literal, remaining)) :
    remaining.length < text.length := by
  unfold scanNumber? at hscan
  split at hscan
  · obtain ⟨⟨_, _⟩, hunsigned, heq⟩ := Option.map_eq_some_iff.1 hscan
    cases heq
    exact Nat.lt_succ_of_lt (length_lt_of_scanUnsigned? hunsigned)
  · exact length_lt_of_scanUnsigned? hscan

theorem length_lt_of_scanOne? {text remaining : List Char} {token : Token}
    (hscan : scanOne? text = some (token, remaining)) : remaining.length < text.length := by
  unfold scanOne? at hscan
  split at hscan
  case h_7 =>
    obtain ⟨⟨_, _⟩, hstring, heq⟩ := Option.map_eq_some_iff.1 hscan
    cases heq
    exact Nat.lt_succ_of_lt (length_lt_of_scanCodes? hstring)
  case h_11 =>
    obtain ⟨⟨_, _⟩, hnumber, heq⟩ := Option.map_eq_some_iff.1 hscan
    cases heq
    exact length_lt_of_scanNumber? hnumber
  all_goals
    cases hscan
    simp only [List.length_cons]
    omega

/-- Reads the tokens of a text behind those found so far, the latest of which comes first. -/
def scanBehind? (found : List Token) (text : List Char) : Option (List Token) :=
  match text with
  | [] => some found.reverse
  | first :: rest =>
      if isSpace first then scanBehind? found rest
      else
        match _hscan : scanOne? (first :: rest) with
        | none => none
        | some (token, remaining) => scanBehind? (token :: found) remaining
termination_by text.length
decreasing_by
  · exact Nat.lt_succ_self _
  · exact length_lt_of_scanOne? ‹_›

def scan? (text : List Char) : Option (List Token) := scanBehind? [] text

theorem scanBehind?_eq (found : List Token) (text : List Char) :
    scanBehind? found text = (scan? text).map (found.reverse ++ ·) := by
  suffices hgeneral : ∀ before, scanBehind? (before ++ found) text =
      (scanBehind? before text).map (found.reverse ++ ·) from hgeneral []
  intro before
  fun_induction scanBehind? before text with
  | case1 before =>
      rw [scanBehind?]
      simp
  | case2 before first rest hspace ih =>
      rw [scanBehind?, if_pos hspace]
      exact ih
  | case3 before first rest hspace hscan =>
      rw [scanBehind?, if_neg hspace]
      split
      · rfl
      · simp_all
  | case4 before first rest hspace token remaining hscan ih =>
      rw [scanBehind?, if_neg hspace]
      split
      · simp_all
      · simp_all

@[simp]
theorem scan?_nil : scan? [] = some [] := by
  rw [scan?, scanBehind?]
  rfl

theorem scan?_space {first : Char} (hspace : isSpace first = true) (rest : List Char) :
    scan? (first :: rest) = scan? rest := by
  rw [scan?, scanBehind?, if_pos hspace]
  rfl

theorem scan?_token {first : Char} {rest remaining : List Char} {token : Token}
    (hspace : isSpace first = false)
    (hscan : scanOne? (first :: rest) = some (token, remaining)) :
    scan? (first :: rest) = (scan? remaining).map (token :: ·) := by
  rw [scan?, scanBehind?, if_neg (by simp [hspace])]
  split
  · simp_all
  · next token' remaining' hscan' =>
      rw [hscan] at hscan'
      cases hscan'
      exact scanBehind?_eq [token] remaining

end Token

end NamingCheck.Json
