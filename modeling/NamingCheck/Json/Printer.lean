import NamingCheck.Json.Basic

/-!
The indented form of a JSON value: two blanks for each level, one item or member on a line, and
nothing between the brackets of an empty array or object.
-/

namespace NamingCheck.Json

def hexDigitOf (value : Nat) : Char :=
  if value < 10 then Char.ofNat ('0'.toNat + value) else Char.ofNat ('a'.toNat + (value - 10))

def hexEscape (code : Nat) : List Char :=
  ['\\', 'u', hexDigitOf (code / 0x1000 % 16), hexDigitOf (code / 0x100 % 16),
    hexDigitOf (code / 0x10 % 16), hexDigitOf (code % 16)]

/-- Only what a string may not hold plainly is escaped, in its short form if it has one. -/
def escapeCode (code : Nat) : List Char :=
  if code = 0x22 then ['\\', '"']
  else if code = 0x5C then ['\\', '\\']
  else if code = 0x08 then ['\\', 'b']
  else if code = 0x0C then ['\\', 'f']
  else if code = 0x0A then ['\\', 'n']
  else if code = 0x0D then ['\\', 'r']
  else if code = 0x09 then ['\\', 't']
  else if code < 0x20 || isLeadingHalf code || isTrailingHalf code then hexEscape code
  else [Char.ofNat code]

def quote (codes : List Nat) : List Char :=
  '"' :: codes.flatMap escapeCode ++ ['"']

def newLine (depth : Nat) : List Char :=
  '\n' :: List.replicate (2 * depth) ' '

/-- Writes the parts between brackets, each on a line of its own. -/
def bracket (opening closing : Char) (depth : Nat) : List (List Char) → List Char
  | [] => [opening, closing]
  | first :: rest =>
      opening :: newLine (depth + 1) ++ first
        ++ rest.flatMap (fun part => ',' :: newLine (depth + 1) ++ part)
        ++ newLine depth ++ [closing]

def prettyAt (depth : Nat) : Json → List Char
  | .null => "null".toList
  | .bool true => "true".toList
  | .bool false => "false".toList
  | .number literal => literal.toList
  | .string codes => quote codes
  | .array items => bracket '[' ']' depth (itemsAt (depth + 1) items)
  | .object members => bracket '\x7b' '\x7d' depth (membersAt (depth + 1) members)
where
  itemsAt (depth : Nat) : List Json → List (List Char)
    | [] => []
    | item :: items => prettyAt depth item :: itemsAt depth items
  membersAt (depth : Nat) : List (List Nat × Json) → List (List Char)
    | [] => []
    | (key, value) :: members =>
        (quote key ++ ": ".toList ++ prettyAt depth value) :: membersAt depth members

def pretty (json : Json) : String := String.ofList (prettyAt 0 json)

end NamingCheck.Json
