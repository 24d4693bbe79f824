import NamingCheck.Json.Token

/-!
The value that a sequence of tokens spells.

The parser is a pushdown machine: its state says which token may come next inside which unfinished
arrays and objects. Nesting costs no recursion, and an unfinished text leaves an unfinished state.
-/

namespace NamingCheck.Json

/-- An array or object whose closing bracket is still to come; its parts are kept latest first. -/
inductive Frame where
  | array (items : List Json)
  | member (members : List (List Nat × Json)) (key : List Nat)

inductive Expectation where
  | value (frames : List Frame)
  | firstItem (frames : List Frame)
  | afterItem (items : List Json) (frames : List Frame)
  | firstKey (frames : List Frame)
  | nextKey (members : List (List Nat × Json)) (frames : List Frame)
  | colon (members : List (List Nat × Json)) (key : List Nat) (frames : List Frame)
  | afterMember (members : List (List Nat × Json)) (frames : List Frame)
  | nothing (json : Json)

namespace Expectation

/-- Puts a finished value where it belongs. -/
def deliver (json : Json) : List Frame → Expectation
  | [] => .nothing json
  | .array items :: frames => .afterItem (json :: items) frames
  | .member members key :: frames => .afterMember ((key, json) :: members) frames

def beginValue? (frames : List Frame) : Token → Option Expectation
  | .null => some (deliver .null frames)
  | .bool flag => some (deliver (.bool flag) frames)
  | .number literal => some (deliver (.number literal) frames)
  | .string codes => some (deliver (.string codes) frames)
  | .openArray => some (.firstItem frames)
  | .openObject => some (.firstKey frames)
  | _ => none

def step? : Expectation → Token → Option Expectation
  | .value frames, token => beginValue? frames token
  | .firstItem frames, .closeArray => some (deliver (.array []) frames)
  | .firstItem frames, token => beginValue? (.array [] :: frames) token
  | .afterItem items frames, .comma => some (.value (.array items :: frames))
  | .afterItem items frames, .closeArray => some (deliver (.array items.reverse) frames)
  | .firstKey frames, .closeObject => some (deliver (.object []) frames)
  | .firstKey frames, .string key => some (.colon [] key frames)
  | .nextKey members frames, .string key => some (.colon members key frames)
  | .colon members key frames, .colon => some (.value (.member members key :: frames))
  | .afterMember members frames, .comma => some (.nextKey members frames)
  | .afterMember members frames, .closeObject => some (deliver (.object members.reverse) frames)
  | _, _ => none

def result? : Expectation → Option Json
  | .nothing json => some json
  | _ => none

end Expectation

def ofTokens? (tokens : List Token) : Option Json :=
  (tokens.foldlM Expectation.step? (.value [])).bind Expectation.result?

/-- Reads a text that holds one value and white space. -/
def parse? (text : String) : Option Json :=
  (Token.scan? text.toList).bind ofTokens?

end NamingCheck.Json
