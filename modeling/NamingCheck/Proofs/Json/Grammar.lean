import NamingCheck.Json.Token

/-!
# The grammar of JSON texts

A value has one sequence of tokens. A token has many spellings, since a string may escape what it
could also hold plainly, and any white space may stand between tokens. A text is a text of the value
if it spells these tokens in this order and holds nothing else.
-/

namespace NamingCheck.Json

/-! ### Numbers -/

/-- One digit or more. -/
def IsDigits (text : List Char) : Prop :=
  text ≠ [] ∧ ∀ c ∈ text, c.isDigit = true

/-- No whole part but zero itself begins with zero. -/
def IsWhole (text : List Char) : Prop :=
  IsDigits text ∧ (text.head? = some '0' → text = ['0'])

inductive IsFraction : List Char → Prop
  | absent : IsFraction []
  | present {digits : List Char} (hdigits : IsDigits digits) : IsFraction ('.' :: digits)

inductive IsExponent : List Char → Prop
  | absent : IsExponent []
  | unsigned {mark : Char} {digits : List Char} (hmark : mark ∈ ['e', 'E'])
      (hdigits : IsDigits digits) : IsExponent (mark :: digits)
  | signed {mark sign : Char} {digits : List Char} (hmark : mark ∈ ['e', 'E'])
      (hsign : sign ∈ ['+', '-']) (hdigits : IsDigits digits) :
      IsExponent (mark :: sign :: digits)

inductive IsNumeral : List Char → Prop
  | unsigned {whole fraction exponent : List Char} (hwhole : IsWhole whole)
      (hfraction : IsFraction fraction) (hexponent : IsExponent exponent) :
      IsNumeral (whole ++ fraction ++ exponent)
  | negative {whole fraction exponent : List Char} (hwhole : IsWhole whole)
      (hfraction : IsFraction fraction) (hexponent : IsExponent exponent) :
      IsNumeral ('-' :: (whole ++ fraction ++ exponent))

/-! ### Strings -/

/-- The signs that stand behind a backslash for one code each. -/
def shortEscapes : List (Char × Nat) :=
  [('"', 0x22), ('\\', 0x5C), ('/', 0x2F), ('b', 0x08), ('f', 0x0C), ('n', 0x0A), ('r', 0x0D),
    ('t', 0x09)]

/-- A text between quotes. Each code is given by a character that is no quote, backslash or control
character, by a short escape or by four hexadecimal digits. -/
inductive SpelledCodes : List Nat → List Char → Prop
  | nil : SpelledCodes [] []
  | plain {c : Char} {codes : List Nat} {text : List Char} (hcontrol : 0x20 ≤ c.toNat)
      (hquote : c ≠ '"') (hbackslash : c ≠ '\\') (hrest : SpelledCodes codes text) :
      SpelledCodes (c.toNat :: codes) (c :: text)
  | short {sign : Char} {code : Nat} {codes : List Nat} {text : List Char}
      (hescape : (sign, code) ∈ shortEscapes) (hrest : SpelledCodes codes text) :
      SpelledCodes (code :: codes) ('\\' :: sign :: text)
  | hex {a b c d : Char} {w x y z : Nat} {codes : List Nat} {text : List Char}
      (ha : Text.hexDigit? a = some w) (hb : Text.hexDigit? b = some x)
      (hc : Text.hexDigit? c = some y) (hd : Text.hexDigit? d = some z)
      (hrest : SpelledCodes codes text) :
      SpelledCodes ((w * 0x1000 + x * 0x100 + y * 0x10 + z) :: codes)
        ('\\' :: 'u' :: a :: b :: c :: d :: text)

/-! ### Tokens -/

namespace Token

inductive Spelled : Token → List Char → Prop
  | openArray : Spelled .openArray ['[']
  | closeArray : Spelled .closeArray [']']
  | openObject : Spelled .openObject ['\x7b']
  | closeObject : Spelled .closeObject ['\x7d']
  | comma : Spelled .comma [',']
  | colon : Spelled .colon [':']
  | null : Spelled .null ['n', 'u', 'l', 'l']
  | true : Spelled (.bool true) ['t', 'r', 'u', 'e']
  | false : Spelled (.bool false) ['f', 'a', 'l', 's', 'e']
  | number {literal : List Char} (hnumeral : IsNumeral literal) :
      Spelled (.number (String.ofList literal)) literal
  | string {codes : List Nat} {text : List Char} (hcodes : SpelledCodes codes text) :
      Spelled (.string codes) ('"' :: (text ++ ['"']))

end Token

def IsBlank (text : List Char) : Prop := ∀ c ∈ text, Token.isSpace c = true

/-- Tokens in a row, with any white space in front of each and behind the last. -/
inductive Layout : List Token → List Char → Prop
  | blank {space : List Char} (hspace : IsBlank space) : Layout [] space
  | token {space spelling rest : List Char} {token : Token} {tokens : List Token}
      (hspace : IsBlank space) (hspelled : token.Spelled spelling) (hrest : Layout tokens rest) :
      Layout (token :: tokens) (space ++ (spelling ++ rest))

/-! ### Values -/

/-- Parts with a comma between each two. -/
def commaRow (parts : List (List Token)) : List Token :=
  List.intercalate [.comma] parts

def tokens : Json → List Token
  | .null => [.null]
  | .bool value => [.bool value]
  | .number literal => [.number literal]
  | .string codes => [.string codes]
  | .array items => .openArray :: (commaRow (ofItems items) ++ [.closeArray])
  | .object members => .openObject :: (commaRow (ofMembers members) ++ [.closeObject])
where
  ofItems : List Json → List (List Token)
    | [] => []
    | item :: items => tokens item :: ofItems items
  ofMembers : List (List Nat × Json) → List (List Token)
    | [] => []
    | (key, value) :: members => (.string key :: .colon :: tokens value) :: ofMembers members

/-- The text is a text of the value. -/
def SpelledBy (json : Json) (text : String) : Prop :=
  Layout json.tokens text.toList

/-- The tokens of a member of an object. -/
def memberTokens (member : List Nat × Json) : List Token :=
  .string member.1 :: .colon :: member.2.tokens

theorem tokens_array (items : List Json) :
    (array items).tokens = .openArray :: (commaRow (items.map tokens) ++ [.closeArray]) := by
  have hitems : tokens.ofItems items = items.map tokens := by
    induction items with
    | nil => rfl
    | cons item items ih => rw [tokens.ofItems, ih, List.map_cons]
  rw [tokens, hitems]

theorem tokens_object (members : List (List Nat × Json)) :
    (object members).tokens =
      .openObject :: (commaRow (members.map memberTokens) ++ [.closeObject]) := by
  have hmembers : tokens.ofMembers members = members.map memberTokens := by
    induction members with
    | nil => rfl
    | cons member members ih =>
        rw [tokens.ofMembers, ih, List.map_cons]
        rfl
  rw [tokens, hmembers]

/-- A proof about all values goes from the parts of arrays and objects to the whole. -/
theorem inductionOnParts {motive : Json → Prop} (null : motive .null)
    (bool : ∀ value, motive (.bool value)) (number : ∀ literal, motive (.number literal))
    (string : ∀ codes, motive (.string codes))
    (array : ∀ items : List Json, (∀ item ∈ items, motive item) → motive (.array items))
    (object : ∀ members : List (List Nat × Json),
      (∀ member ∈ members, motive member.2) → motive (.object members)) :
    ∀ json, motive json
  | .null => null
  | .bool value => bool value
  | .number literal => number literal
  | .string codes => string codes
  | .array items => array items fun item _ =>
      inductionOnParts null bool number string array object item
  | .object members => object members fun member _ =>
      inductionOnParts null bool number string array object member.2
termination_by json => sizeOf json
decreasing_by
  · have := List.sizeOf_lt_of_mem ‹_ ∈ items›
    simp only [Json.array.sizeOf_spec]
    omega
  · have hlt := List.sizeOf_lt_of_mem ‹_ ∈ members›
    rcases member with ⟨key, value⟩
    simp only [Json.object.sizeOf_spec, Prod.mk.sizeOf_spec] at hlt ⊢
    omega

end NamingCheck.Json
