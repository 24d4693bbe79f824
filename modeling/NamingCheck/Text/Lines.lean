/-!
The lines of a file, each ended by a line feed with or without a carriage return before it.
-/

namespace NamingCheck.Text

def lineFeed : UInt8 := 0x0A

def carriageReturn : UInt8 := 0x0D

def splitLines : List UInt8 → List (List UInt8)
  | [] => []
  | byte :: rest =>
      if byte == lineFeed then [] :: splitLines rest
      else if byte == carriageReturn && rest.head? == some lineFeed then splitLines rest
      else
        match splitLines rest with
        | [] => [[byte]]
        | line :: others => (byte :: line) :: others

/-- The texts of the lines up to the first that is not UTF-8. -/
def textLines : List (List UInt8) → List String
  | [] => []
  | line :: rest =>
      match String.fromUTF8? (ByteArray.mk line.toArray) with
      | none => []
      | some text => text :: textLines rest

/-- The lines of a file as far as they are text. -/
def lines (bytes : ByteArray) : List String :=
  textLines (splitLines bytes.toList)

def firstLine? (bytes : ByteArray) : Option String :=
  (lines bytes).head?

end NamingCheck.Text
