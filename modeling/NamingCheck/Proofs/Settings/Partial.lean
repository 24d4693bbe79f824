import NamingCheck.Proofs.Json.Records
import NamingCheck.Proofs.Settings.Loading

/-!
# Settings that are given in part

A file of settings may leave out any of them, alone or with its group. What it gives is found in any
order, among members of other names, and however its texts are escaped and spaced; what it leaves
out has its default.
-/

namespace NamingCheck.Settings

open scoped List

open Json (Encodes Holds IsText IsTexts Spells)

/-- The settings with the named ones back at their defaults. A name may be that of a group. -/
def without (settings : Settings) (omits : String → Bool) : Settings where
  version := if omits "version" then standard.version else settings.version
  exemptNames :=
    if omits "naming" || omits "exempt_names" then standard.exemptNames else settings.exemptNames
  color := if omits "output" || omits "color" then standard.color else settings.color
  fatalErrors :=
    if omits "parse" || omits "fatal_errors" then standard.fatalErrors else settings.fatalErrors
  ignorePatterns :=
    if omits "ignore_patterns" then standard.ignorePatterns else settings.ignorePatterns

/-- Objects that give a group with a single setting. -/
def IsGroup (name : String) (omits : String → Bool) (IsValue : Json → Prop) (json : Json) : Prop :=
  ∃ value, IsValue value ∧ json.Holds [(name, value)] omits

/-- Objects that give the settings but for those left out. -/
inductive GivenBy (settings : Settings) (omits : String → Bool) : Json → Prop
  | object {version naming output parse ignorePatterns json : Json}
      (hversion : IsText settings.version version)
      (hnaming : IsGroup "exempt_names" omits (IsTexts settings.exemptNames) naming)
      (houtput : IsGroup "color" omits (IsText settings.color.name) output)
      (hparse : IsGroup "fatal_errors" omits (· = .bool settings.fatalErrors) parse)
      (hignorePatterns : IsTexts settings.ignorePatterns ignorePatterns)
      (hjson : json.Holds [("version", version), ("naming", naming), ("output", output),
        ("parse", parse), ("ignore_patterns", ignorePatterns)] omits) :
      GivenBy settings omits json

section

variable {settings : Settings} {omits : String → Bool} {json : Json}

theorem onlyField?_of_isGroup {α : Type} {name : String} {IsValue : Json → Prop}
    (hgroup : IsGroup name omits IsValue json) {decode? : Json → Option α} {given : α}
    (hdecode : ∀ value, IsValue value → decode? value = some given) (default : α) :
    onlyField? name decode? default json = some (if omits name then default else given) := by
  obtain ⟨value, hvalue, hholds⟩ := hgroup
  obtain ⟨record, hrecord, hfield⟩ := hholds.exists_record (List.nodup_singleton name)
  have hrecord : json.record? [name] = some record := hrecord
  have hname := hfield name value List.mem_cons_self
  rw [onlyField?, hrecord, Option.bind_some, Record.getD?_of_field? hname (hdecode value hvalue)]

theorem choice?_name {color : ColorMode} (htext : IsText color.name json) :
    json.choice? ColorMode.ofName? = some color := by
  cases htext with
  | string hspells =>
      rw [Json.choice?, hspells.textOfCodes?, Option.bind_some]
      cases color <;> decide

theorem GivenBy.ofJson? (hgiven : settings.GivenBy omits json) :
    Settings.ofJson? json = some (settings.without omits) := by
  cases hgiven with
  | @object version naming output parse ignorePatterns _ hversion hnaming houtput hparse
      hignorePatterns hjson =>
      have honce : ["version", "naming", "output", "parse", "ignore_patterns"].Nodup := by
        decide
      obtain ⟨record, hrecord, hfield⟩ := hjson.exists_record honce
      have hrecord : json.record? ["version", "naming", "output", "parse", "ignore_patterns"] =
        some record := hrecord
      have hbool (value : Json) (hvalue : value = .bool settings.fatalErrors) :
          value.bool? = some settings.fatalErrors := by
        rw [hvalue, Json.bool?]
      have hnames := onlyField?_of_isGroup hnaming (fun _ htexts => htexts.listOf?)
        standard.exemptNames
      have hcolor := onlyField?_of_isGroup houtput (fun _ htext => choice?_name htext)
        standard.color
      have hfatal := onlyField?_of_isGroup hparse hbool standard.fatalErrors
      simp only [Settings.ofJson?, hrecord, Option.bind_eq_bind, Option.bind_some,
        Record.getD?_of_field? (hfield "version" version (by simp)) hversion.text?,
        Record.getD?_of_field? (hfield "naming" naming (by simp)) hnames,
        Record.getD?_of_field? (hfield "output" output (by simp)) hcolor,
        Record.getD?_of_field? (hfield "parse" parse (by simp)) hfatal,
        Record.getD?_of_field? (hfield "ignore_patterns" ignorePatterns (by simp))
          hignorePatterns.listOf?, Option.pure_def, without, Bool.or_eq_true, ite_or]

/-- The form in which settings are written gives all of them. -/
theorem givenBy_toJson (settings : Settings) :
    settings.GivenBy (fun _ => false) settings.toJson :=
  .object (Json.isText_ofText _) ⟨_, Json.isTexts_map _, Json.holds_kept _ _⟩
    ⟨_, Json.isText_ofText _, Json.holds_kept _ _⟩ ⟨_, rfl, Json.holds_kept _ _⟩
    (Json.isTexts_map _) (Json.holds_kept _ _)

theorem writable_toJson (settings : Settings) : settings.toJson.Writable := by
  have hnames := Json.writable_map Json.writable_ofText settings.exemptNames
  have hpatterns := Json.writable_map Json.writable_ofText settings.ignorePatterns
  refine Json.writable_ofMembers ?_
  simp only [List.forall_mem_cons]
  exact ⟨Json.writable_ofText _, Json.writable_ofMembers (List.forall_mem_singleton.2 hnames),
    Json.writable_ofMembers (List.forall_mem_singleton.2 (Json.writable_ofText _)),
    Json.writable_ofMembers (List.forall_mem_singleton.2 (.bool _)), hpatterns, nofun⟩

/-- Settings are loaded as they were written. -/
theorem load_pretty_toJson (settings : Settings) :
    load (some settings.toJson.pretty.toUTF8) = (settings, []) :=
  load_of_storedIn
    ⟨_, _, rfl, settings.writable_toJson.spelledBy_pretty, settings.givenBy_toJson.ofJson?⟩

/-! ### Groups that give nothing -/

def groups : List String := ["naming", "output", "parse"]

theorem groups_subset :
    groups ⊆ ["version", "naming", "output", "parse", "ignore_patterns"] := by
  decide

theorem GivenBy.ne_of_omitted {members : List (List Nat × Json)}
    (hgiven : settings.GivenBy omits (.object members)) {group : String} (hgroup : group ∈ groups)
    (homits : omits group = true) :
    ∀ member ∈ members, Json.textOfCodes? member.1 ≠ some group := by
  cases hgiven with
  | object _ _ _ _ _ hjson => exact hjson.ne_of_omitted (groups_subset hgroup) homits

end

theorem onlyField?_empty {α : Type} (name : String) (decode? : Json → Option α) (default : α) :
    onlyField? name decode? default (.object []) = some default := rfl

theorem ofJson?_append_cons {group : String} (hgroup : group ∈ groups) {key : List Nat}
    (hkey : Spells key group) {before after : List (List Nat × Json)}
    (hfree : ∀ member ∈ before ++ after, Json.textOfCodes? member.1 ≠ some group) :
    ofJson? (.object (before ++ (key, .object []) :: after)) =
      ofJson? (.object (before ++ after)) := by
  rcases Json.record?_append_cons (groups_subset hgroup) hkey (.object []) hfree with
    ⟨hnone, hnoneWith⟩ | ⟨record, extended, hrecord, hextended, hextends⟩
  · rw [ofJson?, ofJson?, hnone, hnoneWith]
  · have hversion : "version" ≠ group := by
      rintro rfl
      exact absurd hgroup (by decide)
    have hpatterns : "ignore_patterns" ≠ group := by
      rintro rfl
      exact absurd hgroup (by decide)
    simp only [ofJson?, hrecord, hextended, Option.bind_eq_bind, Option.bind_some,
      hextends.getD? "version" _ _ fun heq => absurd heq hversion,
      hextends.getD? "naming" _ _ fun _ => onlyField?_empty _ _ _,
      hextends.getD? "output" _ _ fun _ => onlyField?_empty _ _ _,
      hextends.getD? "parse" _ _ fun _ => onlyField?_empty _ _ _,
      hextends.getD? "ignore_patterns" _ _ fun heq => absurd heq hpatterns]

/-! ### What is loaded -/

/-- **Partial settings.** A file of settings is loaded with what it leaves out at its defaults,
whatever the order of its members, the members of other names among them, the escapes in its texts
and the white space between its tokens. The other names may be any texts, also repeated, and their
members any values. A group that is left out counts as an empty one, and names that are left out as
those of the standard policy. -/
theorem load_of_givenBy {settings : Settings} {omits : String → Bool} {json : Json} {text : String}
    (hgiven : settings.GivenBy omits json) (hspelled : json.SpelledBy text) :
    load (some text.toUTF8) = (settings.without omits, []) ∧
      (∀ group ∈ groups, omits group = true → ∀ before after key (textWith : String),
        json = .object (before ++ after) → Spells key group →
          (Json.object (before ++ (key, .object []) :: after)).SpelledBy textWith →
            load (some textWith.toUTF8) = load (some text.toUTF8)) ∧
      (omits "naming" || omits "exempt_names" →
        (load (some text.toUTF8)).1.policy = Policy.standard) := by
  have hjson := hgiven.ofJson?
  have hload := load_of_storedIn ⟨text, json, rfl, hspelled, hjson⟩
  refine ⟨hload, fun group hgroup homits before after key textWith hmembers hkey hwith => ?_,
    fun homits => ?_⟩
  · subst hmembers
    rw [hload]
    refine load_of_storedIn ⟨textWith, _, rfl, hwith, ?_⟩
    rw [ofJson?_append_cons hgroup hkey (hgiven.ne_of_omitted hgroup homits), hjson]
  · rw [hload, policy, without, if_pos homits]
    rfl

/-- A file with two members of an unknown name, a text that ends in an escaped pair, and a group
with a member of an unknown name only. -/
def looseText : String :=
  "\x7b
  \"draft\": [
    15,
    \x7b
      \"a\": null
    \x7d
  ],
  \"draft\": \"\\ud800\",
  \"output\": \x7b
    \"color\": \"never\"
  \x7d,
  \"naming\": \x7b
    \"x\": 1
  \x7d,
  \"version\": \"9\\ud83d\\ude00\"
\x7d"

def looseMembers : List (String × Json) :=
  [("draft", .array [Json.ofNat 15, Json.ofMembers [("a", .null)]]), ("draft", .string [0xD800]),
    ("output", Json.ofMembers [("color", Json.ofText "never")]),
    ("naming", Json.ofMembers [("x", Json.ofNat 1)]), ("version", .string [0x39, 0xD83D, 0xDE00])]

theorem spelledBy_looseText : (Json.ofMembers looseMembers).SpelledBy looseText := by
  have hnull : (Json.ofMembers [("a", .null)]).Writable :=
    Json.writable_ofMembers (List.forall_mem_singleton.2 .null)
  have hwritable : (Json.ofMembers looseMembers).Writable := by
    refine Json.writable_ofMembers ?_
    simp only [looseMembers, List.forall_mem_cons]
    refine ⟨.array ?_, .string ?_, Json.writable_ofMembers ?_, Json.writable_ofMembers ?_,
      .string ?_, nofun⟩
    · exact List.forall_mem_cons.2 ⟨.number 15, List.forall_mem_singleton.2 hnull⟩
    · simp [Json.IsCode]
    · exact List.forall_mem_singleton.2 (Json.writable_ofText "never")
    · exact List.forall_mem_singleton.2 (.number 1)
    · simp [Json.IsCode]
  have hpretty : (Json.ofMembers looseMembers).pretty = looseText := by
    decide +kernel
  exact hpretty ▸ hwritable.spelledBy_pretty

theorem load_of_givenBy_loose :
    let settings : Settings :=
      { version := "9😀", exemptNames := ["tick"], color := .never, fatalErrors := true,
        ignorePatterns := ["*.h"] }
    let omits : String → Bool := ["exempt_names", "parse", "ignore_patterns"].contains
    settings.GivenBy omits (Json.ofMembers looseMembers) ∧
      (Json.ofMembers looseMembers).SpelledBy looseText ∧
      load (some looseText.toUTF8) = ({ version := "9😀", color := .never }, []) := by
  intro settings omits
  have hversion : Spells [0x39, 0xD83D, 0xDE00] "9😀" := .single (.pair (by decide) .nil)
  have hnaming : (Json.ofMembers [("x", Json.ofNat 1)]).Holds
      [("exempt_names", .array (["tick"].map Json.ofText))] omits := by
    have horder : [("x", Json.ofNat 1)].Perm
        (Json.kept omits [("exempt_names", .array (["tick"].map Json.ofText))] ++
          [("x", Json.ofNat 1)]) := .refl _
    exact Json.holds_ofMembers (by simp) horder
  have houtput := Json.holds_kept [("color", Json.ofText "never")] omits
  have hparse := Json.holds_kept [("fatal_errors", Json.bool true)] omits
  have horder : looseMembers.Perm ((looseMembers.drop 2).reverse ++ looseMembers.take 2) :=
    calc looseMembers
        = looseMembers.take 2 ++ looseMembers.drop 2 := (List.take_append_drop 2 _).symm
      _ ~ looseMembers.drop 2 ++ looseMembers.take 2 := List.perm_append_comm
      _ ~ _ := (List.reverse_perm _).symm.append_right _
  have hgiven : settings.GivenBy omits (Json.ofMembers looseMembers) := by
    refine .object (.string hversion) ⟨_, Json.isTexts_map ["tick"], hnaming⟩
      ⟨_, Json.isText_ofText "never", houtput⟩ ⟨_, rfl, hparse⟩ (Json.isTexts_map ["*.h"])
      (Json.holds_ofMembers ?_ horder)
    simp [looseMembers]
  exact ⟨hgiven, spelledBy_looseText, (load_of_givenBy hgiven spelledBy_looseText).1⟩

end NamingCheck.Settings
