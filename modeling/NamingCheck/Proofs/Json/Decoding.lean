import Mathlib.Data.List.Basic
import Mathlib.Data.List.Forall2
import NamingCheck.Json.Basic

/-!
# What was put into a value is found in it

Texts, numbers, choices, lists and records come out of a JSON value as they went in. A record is
found whatever its members hold, because only their names are looked at.
-/

universe u v

namespace NamingCheck.Json

theorem injective_of_decode {α : Type u} {encode : α → Json} {decode? : Json → Option α}
    (hdecode : ∀ value, decode? (encode value) = some value) : Function.Injective encode := by
  intro left right heq
  have hdecoded := congrArg decode? heq
  rw [hdecode, hdecode] at hdecoded
  exact Option.some.inj hdecoded

/-! ### Texts and numbers -/

theorem isValidChar_toNat (c : Char) : c.toNat.isValidChar := by
  have hvalid := c.valid
  rwa [UInt32.isValidChar, Char.toNat_val] at hvalid

/-- The codes of characters leave out the halves of surrogate pairs. -/
theorem isValidChar_iff {code : Nat} :
    code.isValidChar ↔
      code < 0x110000 ∧ isLeadingHalf code = false ∧ isTrailingHalf code = false := by
  simp only [Nat.isValidChar, isLeadingHalf, isTrailingHalf, Bool.and_eq_false_iff,
    decide_eq_false_iff_not]
  omega

theorem charsOfCodes?_map_toNat (chars : List Char) :
    charsOfCodes? (chars.map Char.toNat) = some chars := by
  induction chars with
  | nil => rfl
  | cons c rest ih =>
      obtain ⟨-, hleading, htrailing⟩ := isValidChar_iff.1 (isValidChar_toNat c)
      rw [List.map_cons, charsOfCodes?_cons hleading htrailing, ih, Char.ofNat_toNat]
      rfl

@[simp]
theorem textOfCodes?_codesOfText (text : String) :
    textOfCodes? (codesOfText text) = some text := by
  rw [textOfCodes?, codesOfText, charsOfCodes?_map_toNat, Option.map_some, String.ofList_toList]

@[simp]
theorem text?_ofText (text : String) : (ofText text).text? = some text :=
  textOfCodes?_codesOfText text

@[simp]
theorem choice?_ofText {α : Type u} (ofName? : String → Option α) (name : String) :
    (ofText name).choice? ofName? = ofName? name := by
  rw [ofText, choice?, textOfCodes?_codesOfText, Option.bind_some]

theorem ofText_injective : Function.Injective ofText :=
  injective_of_decode text?_ofText

theorem isDigit_of_mem_decimal (value : Nat) :
    ∀ c ∈ Nat.toDigits 10 value, c.isDigit = true :=
  fun _ hc => Nat.isDigit_of_mem_toDigits (by decide) (by decide) hc

@[simp]
theorem nat?_ofNat (value : Nat) : (ofNat value).nat? = some value := by
  have hdigits : (toString value).toList = Nat.toDigits 10 value := Nat.toList_repr
  have hall : (Nat.toDigits 10 value).all Char.isDigit = true := by
    rw [List.all_eq_true]
    exact isDigit_of_mem_decimal value
  have hvalue : valueOfDigits (Nat.toDigits 10 value) = value :=
    Nat.ofDigitChars_eq_foldl.symm.trans Nat.ofDigitChars_ten_toDigits
  rw [ofNat, nat?, hdigits, if_pos hall, hvalue]

theorem ofNat_injective : Function.Injective ofNat :=
  injective_of_decode nat?_ofNat

theorem natBelow?_ofNat {bound value : Nat} (hlt : value < bound) :
    (ofNat value).natBelow? bound = some value := by
  rw [natBelow?, nat?_ofNat]
  exact Option.filter_some_pos (decide_eq_true hlt)

/-! ### Lists and records -/

theorem mapM_of_forall₂ {α : Type v} {β : Type u} {read? : α → Option β} {values : List β}
    {items : List α}
    (hitems : List.Forall₂ (fun value item => read? item = some value) values items) :
    items.mapM read? = some values := by
  induction hitems with
  | nil => rfl
  | cons hitem _ ih =>
      rw [List.mapM_cons, hitem, ih]
      rfl

theorem listOf?_of_forall₂ {α : Type u} {decode? : Json → Option α} {values : List α}
    {items : List Json}
    (hitems : List.Forall₂ (fun value item => decode? item = some value) values items) :
    listOf? decode? (.array items) = some values :=
  mapM_of_forall₂ hitems

theorem listOf?_map {α : Type u} {encode : α → Json} {decode? : Json → Option α}
    (hdecode : ∀ value, decode? (encode value) = some value) (values : List α) :
    listOf? decode? (.array (values.map encode)) = some values := by
  refine listOf?_of_forall₂ ?_
  rw [List.forall₂_map_right_iff]
  exact List.forall₂_same.2 fun value _ => hdecode value

theorem filterMap_knownMember?_ofMembers {names : List String} {members : List (String × Json)}
    (hknown : ∀ member ∈ members, member.1 ∈ names) :
    (members.map fun member => (codesOfText member.1, member.2)).filterMap (knownMember? names) =
      members := by
  rw [List.filterMap_map]
  refine (List.filterMap_congr fun member hmember => ?_).trans List.filterMap_some
  have hname : names.contains member.1 = true := List.contains_iff_mem.2 (hknown member hmember)
  simp only [Function.comp_apply, knownMember?, textOfCodes?_codesOfText, Option.bind_some]
  rw [if_pos hname]

theorem fullRecord?_ofMembers {names : List String} {members : List (String × Json)}
    (hknown : ∀ member ∈ members, member.1 ∈ names) (honce : (members.map Prod.fst).Nodup) :
    fullRecord? names (ofMembers members) = some ⟨members⟩ := by
  have htexts : (members.map fun member => (codesOfText member.1, member.2)).all
      (fun member => (textOfCodes? member.1).isSome) = true := by
    simp [List.all_map]
  change record? names (.object (members.map fun member => (codesOfText member.1, member.2))) = _
  simp only [record?, filterMap_knownMember?_ofMembers hknown, htexts, honce, decide_true,
    Bool.and_self, if_true]

end NamingCheck.Json
