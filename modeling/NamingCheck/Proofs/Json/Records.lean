import Mathlib.Data.List.Nodup
import Mathlib.Data.List.Forall2
import NamingCheck.Proofs.Json.Decoding

/-!
# A record is found however its object is written

A string may give a character by an escape, and one that needs it by two. An object may give its
fields in any order, leave some out and hold members of other names among them. Read by name, it has
the fields that were given and no others.
-/

universe u

namespace NamingCheck

/-! ### Fields by name -/

/-- Where no name occurs twice, a field is found under its own name. -/
theorem Record.field?_eq_some_iff {record : Record} (honce : (record.fields.map Prod.fst).Nodup)
    {name : String} {json : Json} :
    record.field? name = some json ↔ (name, json) ∈ record.fields := by
  rw [Record.field?, Option.map_eq_some_iff]
  constructor
  · rintro ⟨⟨found, value⟩, hfind, rfl⟩
    obtain rfl : found = name := by simpa using List.find?_some hfind
    exact List.mem_of_find?_eq_some hfind
  · intro hmem
    have hfound : (record.fields.find? fun field => field.1 == name).isSome := by
      rw [List.find?_isSome]
      exact ⟨_, hmem, beq_self_eq_true name⟩
    obtain ⟨field, hfield⟩ := Option.isSome_iff_exists.1 hfound
    have hname : field.1 = name := by simpa using List.find?_some hfield
    have heq := List.inj_on_of_nodup_map honce (List.mem_of_find?_eq_some hfield) hmem hname
    exact ⟨field, hfield, congrArg Prod.snd heq⟩

/-- A field that may have been left out has its default or the value that was given. -/
theorem Record.getD?_of_field? {α : Type u} {record : Record} {name : String} {value : Json}
    {omitted : Bool} (hfield : record.field? name = if omitted then none else some value)
    {decode? : Json → Option α} {given : α} (hdecode : decode? value = some given) (default : α) :
    record.getD? name decode? default = some (if omitted then default else given) := by
  rw [Record.getD?, hfield]
  cases omitted with
  | true => rfl
  | false => exact hdecode

/-- The second record has one field more. -/
structure Record.Extends (record extended : Record) (name : String) (value : Json) : Prop where
  absent : record.field? name = none
  present : extended.field? name = some value
  others : ∀ other, other ≠ name → extended.field? other = record.field? other

/-- A field that gives the default may as well be left out. -/
theorem Record.Extends.getD? {α : Type u} {record extended : Record} {name : String} {value : Json}
    (hextends : record.Extends extended name value) (other : String) (decode? : Json → Option α)
    (default : α) (hdefault : other = name → decode? value = some default) :
    extended.getD? other decode? default = record.getD? other decode? default := by
  by_cases hname : other = name
  · subst hname
    rw [Record.getD?, Record.getD?, hextends.absent, hextends.present]
    exact hdefault rfl
  · rw [Record.getD?, Record.getD?, hextends.others other hname]

namespace Json

/-! ### Texts -/

/-- Codes that give the characters, each by its own code or, from the second plane on, by the two
halves of its surrogate pair. -/
inductive Encodes : List Char → List Nat → Prop
  | nil : Encodes [] []
  | single {c : Char} {chars : List Char} {codes : List Nat} (hrest : Encodes chars codes) :
      Encodes (c :: chars) (c.toNat :: codes)
  | pair {c : Char} {chars : List Char} {codes : List Nat} (hplane : 0x10000 ≤ c.toNat)
      (hrest : Encodes chars codes) :
      Encodes (c :: chars) ((0xD800 + (c.toNat - 0x10000) / 0x400) ::
        (0xDC00 + (c.toNat - 0x10000) % 0x400) :: codes)

theorem charsOfCodes?_pair {c : Char} (hplane : 0x10000 ≤ c.toNat) (codes : List Nat) :
    charsOfCodes? ((0xD800 + (c.toNat - 0x10000) / 0x400) ::
        (0xDC00 + (c.toNat - 0x10000) % 0x400) :: codes) =
      (charsOfCodes? codes).map (c :: ·) := by
  obtain ⟨hbound, -, -⟩ := isValidChar_iff.1 (isValidChar_toNat c)
  have hleading : isLeadingHalf (0xD800 + (c.toNat - 0x10000) / 0x400) = true := by
    simp only [isLeadingHalf, Bool.and_eq_true, decide_eq_true_eq]
    omega
  have htrailing : isTrailingHalf (0xDC00 + (c.toNat - 0x10000) % 0x400) = true := by
    simp only [isTrailingHalf, Bool.and_eq_true, decide_eq_true_eq]
    omega
  have hjoin : joinHalves (0xD800 + (c.toNat - 0x10000) / 0x400)
      (0xDC00 + (c.toNat - 0x10000) % 0x400) = c := by
    have hvalue : 0x10000 + (0xD800 + (c.toNat - 0x10000) / 0x400 - 0xD800) * 0x400
        + (0xDC00 + (c.toNat - 0x10000) % 0x400 - 0xDC00) = c.toNat := by
      omega
    rw [joinHalves, hvalue, Char.ofNat_toNat]
  rw [charsOfCodes?, spell?]
  simp only [hleading, if_true]
  rw [spell?]
  simp only [htrailing, if_true, hjoin]
  exact spell?_append [] [c] none codes

theorem Encodes.charsOfCodes? {chars : List Char} {codes : List Nat}
    (hencodes : Encodes chars codes) : charsOfCodes? codes = some chars := by
  induction hencodes with
  | nil => rfl
  | @single c chars codes _ ih =>
      obtain ⟨-, hleading, htrailing⟩ := isValidChar_iff.1 (isValidChar_toNat c)
      rw [charsOfCodes?_cons hleading htrailing, ih, Char.ofNat_toNat, Option.map_some]
  | pair hplane _ ih => rw [charsOfCodes?_pair hplane, ih, Option.map_some]

/-- The codes give the text. -/
def Spells (codes : List Nat) (text : String) : Prop := Encodes text.toList codes

theorem Spells.textOfCodes? {codes : List Nat} {text : String} (hspells : Spells codes text) :
    textOfCodes? codes = some text := by
  rw [Json.textOfCodes?, Encodes.charsOfCodes? hspells, Option.map_some, String.ofList_toList]

/-- Without escapes each character is given by its own code. -/
theorem spells_codesOfText (text : String) : Spells (codesOfText text) text := by
  rw [Spells, codesOfText]
  induction text.toList with
  | nil => exact .nil
  | cons c rest ih => exact .single ih

inductive IsText (text : String) : Json → Prop
  | string {codes : List Nat} (hspells : Spells codes text) : IsText text (.string codes)

theorem isText_ofText (text : String) : IsText text (ofText text) :=
  .string (spells_codesOfText text)

theorem IsText.text? {text : String} {json : Json} (htext : IsText text json) :
    json.text? = some text := by
  cases htext with
  | string hspells => exact hspells.textOfCodes?

inductive IsTexts (texts : List String) : Json → Prop
  | array {items : List Json} (hitems : List.Forall₂ IsText texts items) :
      IsTexts texts (.array items)

theorem isTexts_map (texts : List String) : IsTexts texts (.array (texts.map ofText)) := by
  refine .array ?_
  rw [List.forall₂_map_right_iff]
  exact List.forall₂_same.2 fun text _ => isText_ofText text

theorem IsTexts.listOf? {texts : List String} {json : Json} (htexts : IsTexts texts json) :
    json.listOf? text? = some texts := by
  cases htexts with
  | array hitems => exact listOf?_of_forall₂ (hitems.imp fun _ _ htext => htext.text?)

/-! ### Objects -/

/-- A member of an object that gives the field. -/
def IsMember (field : String × Json) (member : List Nat × Json) : Prop :=
  Spells member.1 field.1 ∧ member.2 = field.2

/-- The fields that are not left out. -/
def kept (omits : String → Bool) (fields : List (String × Json)) : List (String × Json) :=
  fields.filter fun field => !omits field.1

theorem mem_kept {omits : String → Bool} {fields : List (String × Json)} {name : String}
    {value : Json} :
    (name, value) ∈ kept omits fields ↔ (name, value) ∈ fields ∧ omits name = false := by
  rw [kept, List.mem_filter, Bool.not_eq_true']

/-- Objects that give the fields, those left out excepted, in any order and among any members of
other names. -/
inductive Holds (fields : List (String × Json)) (omits : String → Bool) : Json → Prop
  | object {others given : List (String × Json)} {members : List (List Nat × Json)}
      (hothers : ∀ other ∈ others, other.1 ∉ fields.map Prod.fst)
      (horder : given.Perm (kept omits fields ++ others))
      (hmembers : List.Forall₂ IsMember given members) : Holds fields omits (.object members)

/-- With plain names for its members an object gives them all. -/
theorem holds_ofMembers {fields others given : List (String × Json)} {omits : String → Bool}
    (hothers : ∀ other ∈ others, other.1 ∉ fields.map Prod.fst)
    (horder : given.Perm (kept omits fields ++ others)) : (ofMembers given).Holds fields omits := by
  refine .object hothers horder ?_
  rw [List.forall₂_map_right_iff]
  exact List.forall₂_same.2 fun field _ => ⟨spells_codesOfText field.1, rfl⟩

theorem holds_kept (fields : List (String × Json)) (omits : String → Bool) :
    (ofMembers (kept omits fields)).Holds fields omits := by
  have hothers : ∀ other ∈ ([] : List (String × Json)), other.1 ∉ fields.map Prod.fst := nofun
  refine holds_ofMembers hothers ?_
  rw [List.append_nil]

theorem IsMember.knownMember? {field : String × Json} {member : List Nat × Json}
    (hmember : IsMember field member) (names : List String) :
    Json.knownMember? names member = if names.contains field.1 then some field else none := by
  rw [Json.knownMember?, hmember.1.textOfCodes?, Option.bind_some, hmember.2]

theorem filterMap_knownMember?_of_forall₂ (names : List String) {given : List (String × Json)}
    {members : List (List Nat × Json)} (hmembers : List.Forall₂ IsMember given members) :
    members.filterMap (knownMember? names) = given.filter fun field => names.contains field.1 := by
  induction hmembers with
  | nil => rfl
  | @cons field _ _ _ hmember _ ih =>
      have hknown := hmember.knownMember? names
      by_cases hname : names.contains field.1 = true
      · rw [if_pos hname] at hknown
        rw [List.filterMap_cons_some hknown, List.filter_cons, if_pos hname, ih]
      · rw [if_neg hname] at hknown
        rw [List.filterMap_cons_none hknown, List.filter_cons, if_neg hname, ih]

theorem map_textOfCodes?_of_forall₂ {given : List (String × Json)}
    {members : List (List Nat × Json)} (hmembers : List.Forall₂ IsMember given members) :
    members.map (fun member => textOfCodes? member.1) = given.map fun field => some field.1 := by
  induction hmembers with
  | nil => rfl
  | cons hmember _ ih => rw [List.map_cons, List.map_cons, hmember.1.textOfCodes?, ih]

theorem all_isSome_of_forall₂ {given : List (String × Json)} {members : List (List Nat × Json)}
    (hmembers : List.Forall₂ IsMember given members) :
    members.all (fun member => (textOfCodes? member.1).isSome) = true := by
  have hall : (members.map fun member => textOfCodes? member.1).all Option.isSome = true := by
    rw [map_textOfCodes?_of_forall₂ hmembers, List.all_map]
    exact List.all_eq_true.2 fun _ _ => rfl
  rwa [List.all_map] at hall

theorem perm_kept_of_perm {fields others given : List (String × Json)} {omits : String → Bool}
    (hothers : ∀ other ∈ others, other.1 ∉ fields.map Prod.fst)
    (horder : given.Perm (kept omits fields ++ others)) :
    (given.filter fun field => (fields.map Prod.fst).contains field.1).Perm
      (kept omits fields) := by
  have hkept : ∀ field ∈ kept omits fields, (fields.map Prod.fst).contains field.1 = true :=
    fun field hfield =>
      List.contains_iff_mem.2 (List.mem_map_of_mem (List.mem_of_mem_filter hfield))
  have hunknown : ∀ other ∈ others, ¬(fields.map Prod.fst).contains other.1 = true :=
    fun other hother hcontains => hothers other hother (List.contains_iff_mem.1 hcontains)
  have hfilter := horder.filter fun field => (fields.map Prod.fst).contains field.1
  rwa [List.filter_append, List.filter_eq_self.2 hkept, List.filter_eq_nil_iff.2 hunknown,
    List.append_nil] at hfilter

theorem Holds.ne_of_omitted {fields : List (String × Json)} {omits : String → Bool}
    {members : List (List Nat × Json)} (hholds : (Json.object members).Holds fields omits)
    {name : String} (hname : name ∈ fields.map Prod.fst) (homits : omits name = true) :
    ∀ member ∈ members, textOfCodes? member.1 ≠ some name := by
  intro member hmember htext
  cases hholds with
  | @object others given _ hothers horder hmembers =>
      have hmem := List.mem_map_of_mem (f := fun member => textOfCodes? member.1) hmember
      rw [htext, map_textOfCodes?_of_forall₂ hmembers] at hmem
      obtain ⟨⟨found, value⟩, hfield, hfound⟩ := List.mem_map.1 hmem
      cases hfound
      rcases List.mem_append.1 (horder.mem_iff.1 hfield) with hkept | hother
      · rw [mem_kept, homits] at hkept
        cases hkept.2
      · exact hothers _ hother hname

/-- The record that is read has just the fields that the object gives. -/
theorem Holds.exists_record {fields : List (String × Json)} {omits : String → Bool} {json : Json}
    (hholds : json.Holds fields omits) (honce : (fields.map Prod.fst).Nodup) :
    ∃ record, json.record? (fields.map Prod.fst) = some record ∧
      ∀ name value, (name, value) ∈ fields →
        record.field? name = if omits name then none else some value := by
  cases hholds with
  | @object others given members hothers horder hmembers =>
      have hperm := perm_kept_of_perm hothers horder
      have honceKnown := (hperm.map Prod.fst).nodup_iff.2
        (honce.sublist (List.filter_sublist.map Prod.fst))
      refine ⟨⟨given.filter fun field => (fields.map Prod.fst).contains field.1⟩, ?_, ?_⟩
      · simp only [record?, filterMap_knownMember?_of_forall₂ _ hmembers,
          all_isSome_of_forall₂ hmembers, decide_eq_true honceKnown, Bool.and_self, if_true]
      · intro name value hmem
        split_ifs with homits
        · rw [Option.eq_none_iff_forall_ne_some]
          intro json hfield
          rw [Record.field?_eq_some_iff honceKnown, hperm.mem_iff, mem_kept, homits] at hfield
          cases hfield.2
        · rw [Record.field?_eq_some_iff honceKnown, hperm.mem_iff, mem_kept]
          exact ⟨hmem, Bool.eq_false_iff.2 homits⟩

/-! ### One member more -/

theorem extends_append_cons {before after : List (String × Json)} {name : String}
    (hfree : ∀ field ∈ before ++ after, field.1 ≠ name) (value : Json) :
    Record.Extends ⟨before ++ after⟩ ⟨before ++ (name, value) :: after⟩ name value := by
  have hnone (fields : List (String × Json)) (hsublist : fields ⊆ before ++ after) :
      fields.find? (fun field => field.1 == name) = none := by
    rw [List.find?_eq_none]
    exact fun field hfield => mt beq_iff_eq.1 (hfree field (hsublist hfield))
  constructor
  · rw [Record.field?, hnone _ (List.Subset.refl _), Option.map_none]
  · rw [Record.field?, List.find?_append, hnone before (List.subset_append_left _ _),
      List.find?_cons, beq_self_eq_true]
    rfl
  · intro other hother
    rw [Record.field?, Record.field?, List.find?_append, List.find?_append, List.find?_cons,
      beq_eq_false_iff_ne.2 hother.symm]

theorem nodup_append_cons_iff {before after : List (String × Json)} {name : String}
    (hfree : ∀ field ∈ before ++ after, field.1 ≠ name) (value : Json) :
    ((before ++ (name, value) :: after).map Prod.fst).Nodup ↔
      ((before ++ after).map Prod.fst).Nodup := by
  rw [List.map_append, List.map_cons, List.nodup_middle, List.nodup_cons, ← List.map_append]
  refine and_iff_right fun hmem => ?_
  obtain ⟨field, hfield, hname⟩ := List.mem_map.1 hmem
  exact hfree field hfield hname

theorem exists_member_of_known {names : List String} {members : List (List Nat × Json)}
    {field : String × Json} (hfield : field ∈ members.filterMap (knownMember? names)) :
    ∃ member ∈ members, textOfCodes? member.1 = some field.1 := by
  obtain ⟨member, hmember, hknown⟩ := List.mem_filterMap.1 hfield
  obtain ⟨text, htext, hcontains⟩ := Option.bind_eq_some_iff.1 hknown
  split_ifs at hcontains
  cases hcontains
  exact ⟨member, hmember, htext⟩

/-- A member whose name is new in the object adds its field to the record, unless there is none. -/
theorem record?_append_cons {names : List String} {name : String} (hname : name ∈ names)
    {key : List Nat} (hkey : Spells key name) (value : Json)
    {before after : List (List Nat × Json)}
    (hfree : ∀ member ∈ before ++ after, textOfCodes? member.1 ≠ some name) :
    (record? names (.object (before ++ after)) = none ∧
        record? names (.object (before ++ (key, value) :: after)) = none) ∨
      ∃ record extended, record? names (.object (before ++ after)) = some record ∧
        record? names (.object (before ++ (key, value) :: after)) = some extended ∧
        record.Extends extended name value := by
  have hgives : IsMember (name, value) (key, value) := ⟨hkey, rfl⟩
  have hknown : knownMember? names (key, value) = some (name, value) := by
    rw [hgives.knownMember?, if_pos (List.contains_iff_mem.2 hname)]
  have hnew : ∀ field ∈ before.filterMap (knownMember? names) ++
      after.filterMap (knownMember? names), field.1 ≠ name := by
    rw [← List.filterMap_append]
    rintro field hfield rfl
    obtain ⟨member, hmember, htext⟩ := exists_member_of_known hfield
    exact hfree member hmember htext
  have hextends := extends_append_cons hnew value
  simp only [record?, List.filterMap_append, List.filterMap_cons_some hknown, List.all_append,
    List.all_cons, hkey.textOfCodes?, Option.isSome_some, Bool.true_and,
    nodup_append_cons_iff hnew value]
  split_ifs with hok
  · exact Or.inr ⟨_, _, rfl, rfl, hextends⟩
  · exact Or.inl ⟨rfl, rfl⟩

end Json

end NamingCheck
