/-!
JSON values, and the parts of them that a decoder asks for.

A string is kept as the codes written in it: one for each plain character and one for each escape.
A value can therefore be well formed although its half surrogates do not pair; only asking for the
text of such a string fails. A number is kept as written.
-/

universe u

namespace NamingCheck

inductive Json where
  | null
  | bool (value : Bool)
  | number (literal : String)
  | string (codes : List Nat)
  | array (items : List Json)
  | object (members : List (List Nat × Json))
  deriving Inhabited, Repr

namespace Json

def isLeadingHalf (code : Nat) : Bool := 0xD800 ≤ code && code < 0xDC00

def isTrailingHalf (code : Nat) : Bool := 0xDC00 ≤ code && code < 0xE000

def joinHalves (leading trailing : Nat) : Char :=
  Char.ofNat (0x10000 + (leading - 0xD800) * 0x400 + (trailing - 0xDC00))

/-- Spells the codes behind the characters found so far, the latest of which comes first. A leading
half waits for the trailing half that has to follow it. -/
def spell? (found : List Char) (waiting : Option Nat) : List Nat → Option (List Char)
  | [] => if waiting.isSome then none else some found.reverse
  | code :: rest =>
      match waiting with
      | some leading =>
          if isTrailingHalf code then spell? (joinHalves leading code :: found) none rest else none
      | none =>
          if isLeadingHalf code then spell? found (some code) rest
          else if isTrailingHalf code then none
          else spell? (Char.ofNat code :: found) none rest

/-- The characters that the codes spell, if every half surrogate is one of a pair. -/
def charsOfCodes? (codes : List Nat) : Option (List Char) := spell? [] none codes

theorem spell?_append (before found : List Char) (waiting : Option Nat) (codes : List Nat) :
    spell? (before ++ found) waiting codes =
      (spell? before waiting codes).map (found.reverse ++ ·) := by
  induction codes generalizing before waiting with
  | nil => cases waiting <;> simp [spell?]
  | cons code rest ih =>
      cases waiting with
      | none =>
          rw [spell?, spell?, ih, ← List.cons_append, ih]
          split
          · rfl
          · split <;> rfl
      | some leading =>
          rw [spell?, spell?, ← List.cons_append, ih]
          split <;> rfl

@[simp]
theorem charsOfCodes?_nil : charsOfCodes? [] = some [] := rfl

/-- A code that is no half surrogate spells one character. -/
theorem charsOfCodes?_cons {code : Nat} (hleading : isLeadingHalf code = false)
    (htrailing : isTrailingHalf code = false) (codes : List Nat) :
    charsOfCodes? (code :: codes) = (charsOfCodes? codes).map (Char.ofNat code :: ·) := by
  rw [charsOfCodes?, spell?, hleading, htrailing]
  exact spell?_append [] [Char.ofNat code] none codes

def codesOfText (text : String) : List Nat := text.toList.map Char.toNat

def textOfCodes? (codes : List Nat) : Option String := (charsOfCodes? codes).map String.ofList

def ofText (text : String) : Json := .string (codesOfText text)

def ofNat (value : Nat) : Json := .number (toString value)

def ofMembers (members : List (String × Json)) : Json :=
  .object (members.map fun (key, value) => (codesOfText key, value))

def isNull : Json → Bool
  | .null => true
  | _ => false

def text? : Json → Option String
  | .string codes => textOfCodes? codes
  | _ => none

def bool? : Json → Option Bool
  | .bool value => some value
  | _ => none

def valueOfDigits (digits : List Char) : Nat :=
  digits.foldl (fun value digit => 10 * value + (digit.toNat - '0'.toNat)) 0

/-- A natural number written with digits alone: no sign, fraction or exponent. -/
def nat? : Json → Option Nat
  | .number literal =>
      if literal.toList.all Char.isDigit then some (valueOfDigits literal.toList) else none
  | _ => none

def natBelow? (bound : Nat) (json : Json) : Option Nat :=
  json.nat?.filter (· < bound)

def array? : Json → Option (List Json)
  | .array items => some items
  | _ => none

def listOf? {α : Type u} (decode? : Json → Option α) (json : Json) : Option (List α) :=
  json.array?.bind fun items => items.mapM decode?

/-- A choice by name is the name itself, or the name as the only key over null. -/
def choice? {α : Type u} (ofName? : String → Option α) : Json → Option α
  | .string codes => (textOfCodes? codes).bind ofName?
  | .object [(key, .null)] => (textOfCodes? key).bind ofName?
  | _ => none

end Json

/-- The named fields that a record gives, each at most once. -/
structure Record where
  fields : List (String × Json)

namespace Record

def field? (record : Record) (name : String) : Option Json :=
  (record.fields.find? fun field => field.1 == name).map Prod.snd

def get? {α : Type u} (record : Record) (name : String) (decode? : Json → Option α) :
    Option α :=
  (record.field? name).bind decode?

/-- A field that may be left out, but not be wrong. -/
def getD? {α : Type u} (record : Record) (name : String) (decode? : Json → Option α)
    (default : α) : Option α :=
  match record.field? name with
  | none => some default
  | some json => decode? json

end Record

namespace Json

def knownMember? (names : List String) (member : List Nat × Json) : Option (String × Json) :=
  (textOfCodes? member.1).bind fun name =>
    if names.contains name then some (name, member.2) else none

/-- Reads a record with the given field names. An object may hold other keys besides, but no field
twice and no key without a text; an array gives the fields in order and may stop early. -/
def record? (names : List String) : Json → Option Record
  | .object members =>
      let known := members.filterMap (knownMember? names)
      if members.all (fun member => (textOfCodes? member.1).isSome) && (known.map Prod.fst).Nodup
      then some ⟨known⟩ else none
  | .array items => if items.length ≤ names.length then some ⟨names.zip items⟩ else none
  | _ => none

/-- As `record?`, but an array has to give every field. -/
def fullRecord? (names : List String) (json : Json) : Option Record :=
  match json with
  | .array items => if items.length = names.length then json.record? names else none
  | _ => json.record? names

end Json

end NamingCheck
