/-!
White space in source text, and the ways in which names are freed from it.

All functions work on lists of characters. Blank means the Unicode property of white space, of which
the ASCII blanks are a part.
-/

namespace NamingCheck.Text

def isBlank (c : Char) : Bool :=
  (0x09 ≤ c.toNat && c.toNat ≤ 0x0D) || c.toNat == 0x20 || c.toNat == 0x85 || c.toNat == 0xA0
    || c.toNat == 0x1680 || (0x2000 ≤ c.toNat && c.toNat ≤ 0x200A) || c.toNat == 0x2028
    || c.toNat == 0x2029 || c.toNat == 0x202F || c.toNat == 0x205F || c.toNat == 0x3000

/-- Every character of the text that is not blank. -/
def withoutBlanks (text : List Char) : List Char :=
  text.filter fun c => !isBlank c

def trimEnd (drop : Char → Bool) (text : List Char) : List Char :=
  (text.reverse.dropWhile drop).reverse

def trimBoth (drop : Char → Bool) (text : List Char) : List Char :=
  trimEnd drop (text.dropWhile drop)

def trim (text : List Char) : List Char := trimBoth isBlank text

/-- The longest runs of characters that are not blank. -/
def words : List Char → List (List Char)
  | [] => []
  | c :: rest =>
      if isBlank c then words rest
      else
        match rest with
        | [] => [[c]]
        | next :: _ =>
            if isBlank next then [c] :: words rest
            else
              match words rest with
              | [] => [[c]]
              | word :: others => (c :: word) :: others

/-- Each longest run of blanks becomes one space; none stays at the ends. -/
def singleSpaced (text : List Char) : List Char :=
  (words text).intersperse [' '] |>.flatten

end NamingCheck.Text
