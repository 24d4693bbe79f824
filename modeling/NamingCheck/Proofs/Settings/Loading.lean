import NamingCheck.Proofs.Json.RoundTrip
import NamingCheck.Proofs.Json.Truncation
import NamingCheck.Settings

/-!
# Settings are loaded whole or not at all

The whole of a file has to be one value that holds settings; if it is not, none of it counts. A file
that was cut off before its closing brace is no such value, wherever the cut fell, and nor is one
with more behind the brace than white space.
-/

namespace NamingCheck

/-! ### Texts and their bytes -/

theorem fromUTF8?_eq_some_iff {bytes : ByteArray} {text : String} :
    String.fromUTF8? bytes = some text ↔ bytes = text.toUTF8 := by
  rw [String.toUTF8_eq_toByteArray, String.fromUTF8?]
  constructor
  · intro hdecode
    split_ifs at hdecode
    rw [← Option.some_inj.1 hdecode]
    rfl
  · rintro rfl
    rw [dif_pos text.isValidUTF8]
    rfl

/-- A text may be cut between two characters only. -/
theorem exists_eq_append_of_toUTF8 {front text : String} {rest : ByteArray}
    (hbytes : front.toUTF8 ++ rest = text.toUTF8) :
    ∃ back : String, text = front ++ back ∧ rest = back.toUTF8 := by
  simp only [String.toUTF8_eq_toByteArray] at hbytes ⊢
  have hcut : front.rawEndPos.IsValid text := by
    rw [String.Pos.Raw.isValid_iff_isValidUTF8_extract_zero, ← hbytes, String.byteIdx_rawEndPos,
      ← String.size_toByteArray, ByteArray.extract_append_eq_left rfl, String.Pos.Raw.le_iff,
      String.byteIdx_rawEndPos, String.byteIdx_rawEndPos, ← String.size_toByteArray,
      ← String.size_toByteArray, ← hbytes, ByteArray.size_append]
    exact ⟨Nat.le_add_right _ _, front.isValidUTF8⟩
  have hrest := hcut.isValidUTF8_extract_utf8ByteSize
  rw [← String.size_toByteArray, ← hbytes, String.byteIdx_rawEndPos, ← String.size_toByteArray,
    ByteArray.extract_append_eq_right rfl ByteArray.size_append] at hrest
  refine ⟨⟨rest, hrest⟩, String.toByteArray_inj.1 ?_, rfl⟩
  rw [String.toByteArray_append, hbytes]

namespace Settings

variable {bytes : ByteArray} {settings : Settings}

/-- The bytes are those of a text that holds one value, and the value holds the settings. -/
def StoredIn (settings : Settings) (bytes : ByteArray) : Prop :=
  ∃ (text : String) (json : Json),
    bytes = text.toUTF8 ∧ json.SpelledBy text ∧ ofJson? json = some settings

theorem ofText?_eq_some_iff {text : String} :
    ofText? text = some settings ↔
      ∃ json : Json, json.SpelledBy text ∧ ofJson? json = some settings := by
  simp only [ofText?, Option.bind_eq_some_iff, Json.parse?_eq_some_iff]

theorem load_toUTF8 (text : String) :
    load (some text.toUTF8) = (ofText? text).elim (standard, [.settingsRejected]) (·, []) := by
  have hdecode : String.fromUTF8? text.toUTF8 = some text := fromUTF8?_eq_some_iff.2 rfl
  cases htext : ofText? text with
  | none => simp only [load, Option.bind_some, hdecode, htext, Option.elim_none]
  | some settings => simp only [load, Option.bind_some, hdecode, htext, Option.elim_some]

theorem load_of_storedIn (hstored : settings.StoredIn bytes) :
    load (some bytes) = (settings, []) := by
  obtain ⟨text, json, rfl, hspelled, hjson⟩ := hstored
  rw [load_toUTF8, ofText?_eq_some_iff.2 ⟨json, hspelled, hjson⟩, Option.elim_some]

theorem load_of_parse?_eq_none {text : String} (hparse : Json.parse? text = none) :
    (load (some text.toUTF8)).1 = standard := by
  rw [load_toUTF8, ofText?, hparse, Option.bind_none, Option.elim_none]

theorem load_of_not_storedIn (hnone : ∀ settings : Settings, ¬settings.StoredIn bytes) :
    (load (some bytes)).1 = standard := by
  cases hdecode : String.fromUTF8? bytes with
  | none => rw [load, Option.bind_some, hdecode]
  | some text =>
      obtain rfl := fromUTF8?_eq_some_iff.1 hdecode
      cases htext : ofText? text with
      | none => rw [load_toUTF8, htext, Option.elim_none]
      | some settings =>
          obtain ⟨json, hspelled, hjson⟩ := ofText?_eq_some_iff.1 htext
          exact absurd ⟨text, json, rfl, hspelled, hjson⟩ (hnone settings)

/-! ### Damaged files -/

/-- What was cut off is at least a closing brace. -/
theorem load_of_cut {members : List (List Nat × Json)} {text : String} {cut rest : ByteArray}
    (hspelled : (Json.object members).SpelledBy text)
    (hclosed : text.toList.getLast? = some '\x7d') (hbytes : cut ++ rest = text.toUTF8)
    (hrest : rest ≠ ByteArray.empty) : (load (some cut)).1 = standard := by
  cases hdecode : String.fromUTF8? cut with
  | none => rw [load, Option.bind_some, hdecode]
  | some front =>
      obtain rfl := fromUTF8?_eq_some_iff.1 hdecode
      obtain ⟨back, rfl, rfl⟩ := exists_eq_append_of_toUTF8 hbytes
      have hback : back ≠ "" := by
        rintro rfl
        exact hrest rfl
      exact load_of_parse?_eq_none (Json.parse?_eq_none_of_cut hspelled hclosed hback)

theorem load_of_append {members : List (List Nat × Json)} {text more : String}
    (hspelled : (Json.object members).SpelledBy text)
    (hmore : ∃ c ∈ more.toList, Json.Token.isSpace c = false) :
    (load (some (text ++ more).toUTF8)).1 = standard := by
  refine load_of_parse?_eq_none (Option.eq_none_iff_forall_ne_some.2 fun json hparse => ?_)
  obtain ⟨c, hc, hspace⟩ := hmore
  rw [Json.isBlank_of_parse?_append hspelled hparse c hc] at hspace
  cases hspace

/-- **Settings are loaded whole or not at all.** Bytes give the settings that the whole of them
holds, or the standard ones. The text of an object up to its closing brace gives the standard ones
if it was cut anywhere, be it within a character, and so does a text of an object with more behind
it than white space. What the object holds does not matter. -/
theorem load_whole_or_standard :
    (∀ bytes : ByteArray,
      (∃ settings : Settings, settings.StoredIn bytes ∧ load (some bytes) = (settings, [])) ∨
        (∀ settings : Settings, ¬settings.StoredIn bytes) ∧ (load (some bytes)).1 = standard) ∧
    (∀ (members : List (List Nat × Json)) (text : String), (Json.object members).SpelledBy text →
      (text.toList.getLast? = some '\x7d' → ∀ cut rest : ByteArray, cut ++ rest = text.toUTF8 →
        rest ≠ ByteArray.empty → (load (some cut)).1 = standard) ∧
      ∀ more : String, (∃ c ∈ more.toList, Json.Token.isSpace c = false) →
        (load (some (text ++ more).toUTF8)).1 = standard) := by
  refine ⟨fun bytes => ?_, fun members text hspelled => ⟨?_, ?_⟩⟩
  · by_cases hstored : ∃ settings : Settings, settings.StoredIn bytes
    · obtain ⟨settings, hstored⟩ := hstored
      exact Or.inl ⟨settings, hstored, load_of_storedIn hstored⟩
    · rw [not_exists] at hstored
      exact Or.inr ⟨hstored, load_of_not_storedIn hstored⟩
  · exact fun hclosed cut rest hbytes hrest => load_of_cut hspelled hclosed hbytes hrest
  · exact fun more hmore => load_of_append hspelled hmore

/-- A version that is in force, but not without the brace or with a comma behind it. -/
theorem load_whole_or_standard_version :
    let text := "\x7b\n  \"version\": \"9\"\n\x7d"
    load (some text.toUTF8) = ({ version := "9" }, []) ∧
      (load (some "\x7b\n  \"version\": \"9\"\n".toUTF8)).1 = standard ∧
      (load (some (text ++ ",").toUTF8)).1 = standard := by
  intro text
  have hwritable : (Json.ofMembers [("version", Json.ofText "9")]).Writable :=
    Json.writable_ofMembers (List.forall_mem_singleton.2 (Json.writable_ofText "9"))
  have hspelled : (Json.ofMembers [("version", Json.ofText "9")]).SpelledBy text :=
    hwritable.spelledBy_pretty
  have hstored : StoredIn { version := "9" } text.toUTF8 := ⟨text, _, rfl, hspelled, rfl⟩
  have hclosed : text.toList.getLast? = some '\x7d' := by
    decide
  have hbytes : "\x7b\n  \"version\": \"9\"\n".toUTF8 ++ "\x7d".toUTF8 = text.toUTF8 := rfl
  obtain ⟨hcut, hmore⟩ := load_whole_or_standard.2 _ text hspelled
  exact ⟨load_of_storedIn hstored, hcut hclosed _ _ hbytes (by decide),
    hmore "," ⟨',', by decide, by decide⟩⟩

end Settings

end NamingCheck
