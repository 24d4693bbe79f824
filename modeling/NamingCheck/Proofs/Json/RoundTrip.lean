import NamingCheck.Proofs.Json.Parsing
import NamingCheck.Proofs.Json.Spelling

/-!
# A written value is read back

The printed form of a value is one of its texts: it spells the tokens of the value in order, with a
line's indentation in front of some of them. So the parser finds the value in it.
-/

universe u

namespace NamingCheck.Json

/-- The values that a document can hold: natural numbers, and strings of codes. -/
inductive Writable : Json → Prop
  | null : Writable .null
  | bool (value : Bool) : Writable (.bool value)
  | number (value : Nat) : Writable (ofNat value)
  | string {codes : List Nat} (hcodes : ∀ code ∈ codes, IsCode code) : Writable (.string codes)
  | array {items : List Json} (hitems : ∀ item ∈ items, Writable item) : Writable (.array items)
  | object {members : List (List Nat × Json)}
      (hkeys : ∀ member ∈ members, ∀ code ∈ member.1, IsCode code)
      (hvalues : ∀ member ∈ members, Writable member.2) : Writable (.object members)

theorem writable_ofText (text : String) : Writable (ofText text) :=
  .string fun _ hcode => isCode_of_mem_codesOfText hcode

theorem writable_map {α : Type} {encode : α → Json} (hencode : ∀ value, Writable (encode value))
    (values : List α) : Writable (.array (values.map encode)) :=
  .array (List.forall_mem_map.2 fun value _ => hencode value)

theorem writable_ofMembers {members : List (String × Json)}
    (hvalues : ∀ member ∈ members, Writable member.2) : Writable (ofMembers members) := by
  refine .object ?_ ?_
  · exact List.forall_mem_map.2 fun _ _ _ hcode => isCode_of_mem_codesOfText hcode
  · exact List.forall_mem_map.2 hvalues

/-! ### Lines -/

theorem layout_newLine (depth : Nat) : Layout [] (newLine depth) := by
  refine .blank (isBlank_cons.2 ⟨rfl, fun c hc => ?_⟩)
  rw [List.eq_of_mem_replicate hc]
  rfl

/-! ### Arrays and objects -/

section

variable {α : Type u} {write : α → List Char} {spell : α → List Token}

theorem layout_furtherParts (depth : Nat) {parts : List α}
    (hparts : ∀ part ∈ parts, Layout (spell part) (write part)) :
    Layout ((parts.map spell).flatMap (.comma :: ·))
      ((parts.map write).flatMap fun part => ',' :: newLine depth ++ part) := by
  induction parts with
  | nil => exact .blank isBlank_nil
  | cons part parts ih =>
      rw [List.forall_mem_cons] at hparts
      have hcomma := Token.Spelled.comma.layout.append (layout_newLine depth)
      exact (hcomma.append hparts.1).append (ih hparts.2)

/-- Parts written between brackets spell a row of parts between the tokens of the brackets. -/
theorem layout_bracket {opening closing : Char} {opens closes : Token}
    (hopens : opens.Spelled [opening]) (hcloses : closes.Spelled [closing]) (depth : Nat)
    {parts : List α}
    (hparts : ∀ part ∈ parts, Layout (spell part) (write part)) :
    Layout (opens :: (commaRow (parts.map spell) ++ [closes]))
      (bracket opening closing depth (parts.map write)) := by
  cases parts with
  | nil => exact hopens.layout.append hcloses.layout
  | cons first parts =>
      rw [List.forall_mem_cons] at hparts
      have hfront := (hopens.layout.append (layout_newLine (depth + 1))).append hparts.1
      have hbehind := (layout_newLine depth).append hcloses.layout
      have hfurther := layout_furtherParts (depth + 1) hparts.2
      rw [List.map_cons, List.map_cons, commaRow_cons, bracket]
      simpa using (hfront.append hfurther).append hbehind

end

theorem itemsAt_eq_map (depth : Nat) (items : List Json) :
    prettyAt.itemsAt depth items = items.map (prettyAt depth) := by
  induction items with
  | nil => rfl
  | cons item items ih => rw [prettyAt.itemsAt, ih, List.map_cons]

/-- How a member of an object is written. -/
def writeMember (depth : Nat) (member : List Nat × Json) : List Char :=
  quote member.1 ++ ": ".toList ++ prettyAt depth member.2

theorem membersAt_eq_map (depth : Nat) (members : List (List Nat × Json)) :
    prettyAt.membersAt depth members = members.map (writeMember depth) := by
  induction members with
  | nil => rfl
  | cons member members ih =>
      rw [prettyAt.membersAt, ih, List.map_cons]
      rfl

theorem Writable.layout {json : Json} (hwritable : Writable json) (depth : Nat) :
    Layout json.tokens (prettyAt depth json) := by
  induction hwritable generalizing depth with
  | null => exact Token.Spelled.null.layout
  | bool value => cases value with
    | true => exact Token.Spelled.true.layout
    | false => exact Token.Spelled.false.layout
  | number value => exact (Token.spelled_toString value).layout
  | string hcodes => exact (Token.spelled_quote hcodes).layout
  | array _ ih =>
      rw [tokens_array, prettyAt, itemsAt_eq_map]
      exact layout_bracket .openArray .closeArray depth fun item hitem => ih item hitem (depth + 1)
  | object hkeys _ ih =>
      rw [tokens_object, prettyAt, membersAt_eq_map]
      refine layout_bracket .openObject .closeObject depth fun member hmember => ?_
      have hkey := (Token.spelled_quote (hkeys member hmember)).layout
      have hblank : Layout [] [' '] := .blank (List.forall_mem_singleton.2 rfl)
      have hcolon := Token.Spelled.colon.layout.append hblank
      exact (hkey.append hcolon).append (ih member hmember (depth + 1))

theorem Writable.spelledBy_pretty {json : Json} (hwritable : Writable json) :
    json.SpelledBy json.pretty := by
  rw [SpelledBy, pretty, String.toList_ofList]
  exact hwritable.layout 0

/-- Reading what was printed gives the printed value. -/
theorem Writable.parse?_pretty {json : Json} (hwritable : Writable json) :
    parse? json.pretty = some json :=
  parse?_eq_some_iff.2 hwritable.spelledBy_pretty

end NamingCheck.Json
