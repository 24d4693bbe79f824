import NamingCheck.Json.Printer
import NamingCheck.Proofs.Json.Decoding
import NamingCheck.Proofs.Json.Grammar

/-!
# Strings and numbers are written as the grammar has them

A written string holds no quote and no backslash of its own, since each code that a string may not
hold plainly is escaped. A natural number is written with digits alone and without a leading zero.
-/

namespace NamingCheck.Json

/-! ### Strings -/

theorem hexDigit?_hexDigitOf : ∀ value < 16, Text.hexDigit? (hexDigitOf value) = some value := by
  decide

/-- Codes of characters and of half surrogates; nothing else can be written. -/
def IsCode (code : Nat) : Prop := code < 0x110000

theorem isCode_of_mem_codesOfText {text : String} {code : Nat} (hcode : code ∈ codesOfText text) :
    IsCode code := by
  obtain ⟨c, -, rfl⟩ := List.mem_map.1 hcode
  exact (isValidChar_iff.1 (isValidChar_toNat c)).1

theorem toNat_ofNat_of_isCode {code : Nat} (hcode : IsCode code)
    (hleading : isLeadingHalf code = false) (htrailing : isTrailingHalf code = false) :
    (Char.ofNat code).toNat = code := by
  rw [Char.ofNat, dif_pos (isValidChar_iff.2 ⟨hcode, hleading, htrailing⟩)]
  rfl

section

variable {code : Nat} {codes : List Nat} {text : List Char}

theorem SpelledCodes.cons_hexEscape (hspelled : SpelledCodes codes text) (hcode : code < 0x10000) :
    SpelledCodes (code :: codes) (hexEscape code ++ text) := by
  have hdigit (value : Nat) : Text.hexDigit? (hexDigitOf (value % 16)) = some (value % 16) :=
    hexDigit?_hexDigitOf _ (Nat.mod_lt _ (by decide))
  have hvalue : code / 0x1000 % 16 * 0x1000 + code / 0x100 % 16 * 0x100 + code / 0x10 % 16 * 0x10
      + code % 16 = code := by
    omega
  have hescaped := SpelledCodes.hex (hdigit (code / 0x1000)) (hdigit (code / 0x100))
    (hdigit (code / 0x10)) (hdigit code) hspelled
  rwa [hvalue] at hescaped

theorem SpelledCodes.cons_escapeCode (hspelled : SpelledCodes codes text) (hcode : IsCode code) :
    SpelledCodes (code :: codes) (escapeCode code ++ text) := by
  rw [escapeCode]
  split_ifs with hquote hbackslash hb hf hn hr ht hescaped
  -- The seven codes with a short form.
  iterate 7
    subst code
    exact .short (by decide) hspelled
  · refine hspelled.cons_hexEscape ?_
    simp only [Bool.or_eq_true, decide_eq_true_eq, isLeadingHalf, isTrailingHalf,
      Bool.and_eq_true] at hescaped
    omega
  · simp only [Bool.or_eq_true, decide_eq_true_eq, not_or, Bool.not_eq_true] at hescaped
    obtain ⟨⟨hcontrol, hleading⟩, htrailing⟩ := hescaped
    have hvalue := toNat_ofNat_of_isCode hcode hleading htrailing
    have hne (c : Char) (hc : code ≠ c.toNat) : Char.ofNat code ≠ c := by
      rintro rfl
      exact hc hvalue.symm
    have hplain := SpelledCodes.plain (by omega) (hne '"' hquote) (hne '\\' hbackslash) hspelled
    rwa [hvalue] at hplain

end

theorem spelledCodes_flatMap {codes : List Nat} (hcodes : ∀ code ∈ codes, IsCode code) :
    SpelledCodes codes (codes.flatMap escapeCode) := by
  induction codes with
  | nil => exact .nil
  | cons code others ih =>
      rw [List.forall_mem_cons] at hcodes
      exact (ih hcodes.2).cons_escapeCode hcodes.1

theorem Token.spelled_quote {codes : List Nat} (hcodes : ∀ code ∈ codes, IsCode code) :
    (Token.string codes).Spelled (quote codes) :=
  .string (spelledCodes_flatMap hcodes)

/-! ### Natural numbers -/

theorem head?_toDigits_ne_zero {value : Nat} (hpos : 0 < value) :
    (Nat.toDigits 10 value).head? ≠ some '0' := by
  induction value using Nat.strongRecOn with
  | ind value ih =>
      rw [Nat.toDigits_eq_if (by decide)]
      split_ifs with hsmall
      · have hdigit : ∀ digit < 10, 0 < digit → [digit.digitChar].head? ≠ some '0' := by
          decide
        exact hdigit value hsmall hpos
      · have hleading := ih (value / 10) (by omega) (by omega)
        cases hdigits : Nat.toDigits 10 (value / 10) with
        | nil => exact absurd hdigits Nat.toDigits_ne_nil
        | cons first others =>
            rw [hdigits] at hleading
            exact hleading

theorem isWhole_toDigits (value : Nat) : IsWhole (Nat.toDigits 10 value) := by
  refine ⟨⟨Nat.toDigits_ne_nil, isDigit_of_mem_decimal value⟩, fun hzero => ?_⟩
  rcases Nat.eq_zero_or_pos value with rfl | hpos
  · rfl
  · exact absurd hzero (head?_toDigits_ne_zero hpos)

theorem Token.spelled_toString (value : Nat) :
    (Token.number (toString value)).Spelled (toString value).toList := by
  have hnumeral := IsNumeral.unsigned (isWhole_toDigits value) .absent .absent
  rw [List.append_nil, List.append_nil] at hnumeral
  rw [Nat.toString_eq_ofList_toDigits, String.toList_ofList]
  exact .number hnumeral

end NamingCheck.Json
