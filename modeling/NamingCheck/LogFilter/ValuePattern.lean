import NamingCheck.Regex.Usable

/-!
The values that a log filter compares fields with.

A value is a number or a regular expression. Only its form matters here: no event is chosen by the
value of a field, but a filter that holds a malformed value is no filter.
-/

namespace NamingCheck.ValuePattern

/-- An exponent with its mark, or nothing. -/
def isExponent : List Char → Bool
  | [] => true
  | mark :: rest =>
      (mark == 'e' || mark == 'E')
        && (Text.isDigits rest
          || ((rest.head? == some '+' || rest.head? == some '-') && Text.isDigits rest.tail))

/-- A decimal number without a sign. -/
def isDecimal (text : List Char) : Bool :=
  let whole := text.takeWhile Char.isDigit
  match text.drop whole.length with
  | '.' :: rest =>
      let fraction := rest.takeWhile Char.isDigit
      !(whole.isEmpty && fraction.isEmpty) && isExponent (rest.drop fraction.length)
  | rest => !whole.isEmpty && isExponent rest

/-- A number with a plus sign is no expression, and a value all the same. -/
def isSignedNumber : List Char → Bool
  | '+' :: rest =>
      isDecimal rest || ["inf", "infinity", "nan"].contains (String.ofList (rest.map Char.toLower))
  | _ => false

def isWellFormed (text : List Char) : Bool :=
  isSignedNumber text || Regex.isUsable text

end NamingCheck.ValuePattern
