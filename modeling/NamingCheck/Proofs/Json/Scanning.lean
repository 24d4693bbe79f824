import Mathlib.Data.List.Chain
import NamingCheck.Proofs.Json.Grammar

/-!
# The scanner finds the tokens that a text spells

What the scanner takes off a text is a spelling of the token it reports, and it takes all of that
spelling. Only a number could be taken in part or go on too far, so what follows one has to be no
part of it; in a row of tokens where a bracket, a comma or a colon follows each number this is so.
-/

namespace NamingCheck.Json

open Token (fourHexDigits? isSpace scan? scanCodes? scanDigits? scanWhole? scanFraction?
  scanExponent? scanNumber? scanOne? scanUnsigned? simpleEscape?)

/-! ### Numbers -/

/-- Nothing by which a number could go on. -/
def EndsNumber (rest : List Char) : Prop :=
  ∀ first ∈ rest.head?, first.isDigit = false ∧ first ≠ '.' ∧ first ≠ 'e' ∧ first ≠ 'E'

section

variable {text rest literal remaining : List Char}

theorem isDigits_of_scanDigits? (hscan : scanDigits? text = some (literal, remaining)) :
    IsDigits literal ∧ text = literal ++ remaining := by
  unfold scanDigits? at hscan
  split at hscan
  · cases hscan
  · next hsome =>
      cases hscan
      refine ⟨⟨hsome, fun c hc => ?_⟩, List.takeWhile_append_dropWhile.symm⟩
      exact List.all_eq_true.1 List.all_takeWhile c hc

theorem isWhole_of_scanWhole? (hscan : scanWhole? text = some (literal, remaining)) :
    IsWhole literal ∧ text = literal ++ remaining := by
  unfold scanWhole? at hscan
  split at hscan
  · cases hscan
    exact ⟨⟨⟨nofun, List.forall_mem_singleton.2 rfl⟩, fun _ => rfl⟩, rfl⟩
  · next hzero =>
      obtain ⟨hdigits, rfl⟩ := isDigits_of_scanDigits? hscan
      refine ⟨⟨hdigits, fun hhead => ?_⟩, rfl⟩
      obtain ⟨others, rfl⟩ := List.head?_eq_some_iff.1 hhead
      exact absurd rfl (hzero (others ++ remaining))

theorem isFraction_of_scanFraction? (hscan : scanFraction? text = some (literal, remaining)) :
    IsFraction literal ∧ text = literal ++ remaining := by
  unfold scanFraction? at hscan
  split at hscan
  · obtain ⟨⟨_, _⟩, hscanDigits, heq⟩ := Option.map_eq_some_iff.1 hscan
    cases heq
    obtain ⟨hdigits, rfl⟩ := isDigits_of_scanDigits? hscanDigits
    exact ⟨.present hdigits, rfl⟩
  · cases hscan
    exact ⟨.absent, rfl⟩

theorem isExponent_of_scanExponent? (hscan : scanExponent? text = some (literal, remaining)) :
    IsExponent literal ∧ text = literal ++ remaining := by
  unfold scanExponent? at hscan
  split at hscan
  · next mark rest =>
      split_ifs at hscan with hletter
      · have hmark : mark ∈ ['e', 'E'] := by
          simpa using hletter
        split at hscan
        · next sign others =>
            split_ifs at hscan with hsign
            · obtain ⟨⟨_, _⟩, hscanDigits, heq⟩ := Option.map_eq_some_iff.1 hscan
              cases heq
              obtain ⟨hdigits, rfl⟩ := isDigits_of_scanDigits? hscanDigits
              exact ⟨.signed hmark (by simpa using hsign) hdigits, rfl⟩
            · obtain ⟨⟨_, _⟩, hscanDigits, heq⟩ := Option.map_eq_some_iff.1 hscan
              cases heq
              obtain ⟨hdigits, heq⟩ := isDigits_of_scanDigits? hscanDigits
              exact ⟨.unsigned hmark hdigits, congrArg _ heq⟩
        · cases hscan
      · cases hscan
        exact ⟨.absent, rfl⟩
  · cases hscan
    exact ⟨.absent, rfl⟩

theorem isNumeral_of_scanUnsigned? (hscan : scanUnsigned? text = some (literal, remaining)) :
    IsNumeral literal ∧ IsNumeral ('-' :: literal) ∧ text = literal ++ remaining := by
  simp only [scanUnsigned?, Option.bind_eq_bind, Option.bind_eq_some_iff, Option.pure_def,
    Option.some.injEq, Prod.mk.injEq] at hscan
  obtain ⟨⟨whole, afterWhole⟩, hscanWhole, ⟨fraction, afterFraction⟩, hscanFraction,
    ⟨exponent, afterExponent⟩, hscanExponent, rfl, rfl⟩ := hscan
  obtain ⟨hwhole, rfl⟩ := isWhole_of_scanWhole? hscanWhole
  obtain ⟨hfraction, rfl⟩ := isFraction_of_scanFraction? hscanFraction
  obtain ⟨hexponent, rfl⟩ := isExponent_of_scanExponent? hscanExponent
  refine ⟨.unsigned hwhole hfraction hexponent, .negative hwhole hfraction hexponent, ?_⟩
  rw [List.append_assoc, List.append_assoc]

theorem isNumeral_of_scanNumber? (hscan : scanNumber? text = some (literal, remaining)) :
    IsNumeral literal ∧ text = literal ++ remaining := by
  unfold scanNumber? at hscan
  split at hscan
  · obtain ⟨⟨_, _⟩, hunsigned, heq⟩ := Option.map_eq_some_iff.1 hscan
    cases heq
    obtain ⟨-, hnumeral, rfl⟩ := isNumeral_of_scanUnsigned? hunsigned
    exact ⟨hnumeral, rfl⟩
  · obtain ⟨hnumeral, -, heq⟩ := isNumeral_of_scanUnsigned? hscan
    exact ⟨hnumeral, heq⟩

/-- What stands behind the whole part of a number is no digit. -/
theorem isDigit_head?_fraction {fraction : List Char} (hfraction : IsFraction fraction)
    (hrest : ∀ first ∈ rest.head?, first.isDigit = false) :
    ∀ first ∈ (fraction ++ rest).head?, first.isDigit = false := by
  cases hfraction with
  | absent => exact hrest
  | present hdigits =>
      rintro first ⟨⟩
      rfl

/-- What stands behind the fraction of a number is no digit and no point. -/
theorem isDigit_head?_exponent {exponent : List Char} (hexponent : IsExponent exponent)
    (hend : EndsNumber rest) :
    ∀ first ∈ (exponent ++ rest).head?, first.isDigit = false ∧ first ≠ '.' := by
  have hmarks : ∀ mark ∈ ['e', 'E'], mark.isDigit = false ∧ mark ≠ '.' := by
    rw [List.forall_mem_cons, List.forall_mem_singleton]
    exact ⟨⟨rfl, by decide⟩, rfl, by decide⟩
  cases hexponent with
  | absent => exact fun first hfirst => ⟨(hend first hfirst).1, (hend first hfirst).2.1⟩
  | unsigned hmark _ =>
      rintro first ⟨⟩
      exact hmarks _ hmark
  | signed hmark _ _ =>
      rintro first ⟨⟩
      exact hmarks _ hmark

theorem scanDigits?_of_isDigits {digits : List Char} (hdigits : IsDigits digits)
    (hrest : ∀ first ∈ rest.head?, first.isDigit = false) :
    scanDigits? (digits ++ rest) = some (digits, rest) := by
  obtain ⟨hsome, hall⟩ := hdigits
  have htake : rest.takeWhile Char.isDigit = [] ∧ rest.dropWhile Char.isDigit = rest := by
    cases rest with
    | nil => simp
    | cons first others => simp [hrest first rfl]
  rw [scanDigits?, List.takeWhile_append_of_pos hall, List.dropWhile_append_of_pos hall, htake.1,
    htake.2, List.append_nil]
  cases digits with
  | nil => exact absurd rfl hsome
  | cons first others => rfl

theorem scanWhole?_of_isWhole {whole : List Char} (hwhole : IsWhole whole)
    (hrest : ∀ first ∈ rest.head?, first.isDigit = false) :
    scanWhole? (whole ++ rest) = some (whole, rest) := by
  obtain ⟨hdigits, hzero⟩ := hwhole
  cases whole with
  | nil => exact absurd rfl hdigits.1
  | cons first others =>
      by_cases hfirst : first = '0'
      · subst hfirst
        cases hzero rfl
        rfl
      · rw [List.cons_append, scanWhole?]
        · exact scanDigits?_of_isDigits hdigits hrest
        · intro _ heq
          exact hfirst (List.cons.inj heq).1

theorem scanFraction?_of_isFraction {fraction : List Char} (hfraction : IsFraction fraction)
    (hrest : ∀ first ∈ rest.head?, first.isDigit = false ∧ first ≠ '.') :
    scanFraction? (fraction ++ rest) = some (fraction, rest) := by
  cases hfraction with
  | absent =>
      rw [List.nil_append, scanFraction?]
      rintro others rfl
      exact (hrest '.' rfl).2 rfl
  | present hdigits =>
      rw [List.cons_append, scanFraction?,
        scanDigits?_of_isDigits hdigits fun first hfirst => (hrest first hfirst).1]
      rfl

theorem scanExponent?_of_isExponent {exponent : List Char} (hexponent : IsExponent exponent)
    (hend : EndsNumber rest) : scanExponent? (exponent ++ rest) = some (exponent, rest) := by
  have hrest (first : Char) (hfirst : first ∈ rest.head?) : first.isDigit = false :=
    (hend first hfirst).1
  cases hexponent with
  | absent =>
      cases rest with
      | nil => rfl
      | cons first others => simp [scanExponent?, hend first rfl]
  | unsigned hmark hdigits =>
      -- A digit is no sign, so the digits follow the mark at once.
      have hletter := List.mem_pair.1 hmark
      have hscan := scanDigits?_of_isDigits hdigits hrest
      obtain ⟨hsome, hall⟩ := hdigits
      rename_i mark digits
      cases digits with
      | nil => exact absurd rfl hsome
      | cons digit others =>
          have hdigit := hall digit List.mem_cons_self
          have hsign : ¬(digit = '+' ∨ digit = '-') := by
            rintro (rfl | rfl) <;> cases hdigit
          rw [List.cons_append] at hscan
          simp [scanExponent?, hletter, hsign, hscan]
  | signed hmark hsign hdigits =>
      have hletter := List.mem_pair.1 hmark
      have hplus := List.mem_pair.1 hsign
      have hscan := scanDigits?_of_isDigits hdigits hrest
      simp [scanExponent?, hletter, hplus, hscan]

theorem scanUnsigned?_of_parts {whole fraction exponent : List Char} (hwhole : IsWhole whole)
    (hfraction : IsFraction fraction) (hexponent : IsExponent exponent) (hend : EndsNumber rest) :
    scanUnsigned? (whole ++ fraction ++ exponent ++ rest) =
      some (whole ++ fraction ++ exponent, rest) := by
  have hbehind := isDigit_head?_exponent hexponent hend
  have hwhole := scanWhole?_of_isWhole hwhole
    (isDigit_head?_fraction hfraction fun first hfirst => (hbehind first hfirst).1)
  simp [scanUnsigned?, List.append_assoc, hwhole, scanFraction?_of_isFraction hfraction hbehind,
    scanExponent?_of_isExponent hexponent hend]

/-- A numeral is scanned whole, unless what follows goes on with it. -/
theorem scanNumber?_of_isNumeral (hnumeral : IsNumeral literal) (hend : EndsNumber rest) :
    scanNumber? (literal ++ rest) = some (literal, rest) := by
  cases hnumeral with
  | negative hwhole hfraction hexponent =>
      rw [List.cons_append, scanNumber?, scanUnsigned?_of_parts hwhole hfraction hexponent hend]
      rfl
  | unsigned hwhole hfraction hexponent =>
      rw [scanNumber?, scanUnsigned?_of_parts hwhole hfraction hexponent hend]
      intro others heq
      obtain ⟨⟨hsome, hdigits⟩, -⟩ := hwhole
      rename_i whole fraction exponent
      cases whole with
      | nil => exact hsome rfl
      | cons first digits =>
          have hdigit := hdigits first List.mem_cons_self
          rw [(List.cons.inj heq).1] at hdigit
          cases hdigit

end

/-! ### Strings -/

theorem scanCodes?_plain {c : Char} (hcontrol : ¬c.toNat < 0x20) (hquote : c ≠ '"')
    (hbackslash : c ≠ '\\') (found : List Nat) (rest : List Char) :
    scanCodes? found (c :: rest) = scanCodes? (c.toNat :: found) rest := by
  rw [scanCodes?]
  · simp [hcontrol, hbackslash]
  all_goals simp [hquote, hbackslash]

theorem simpleEscape?_eq_some_iff {sign : Char} {code : Nat} :
    simpleEscape? sign = some code ↔ (sign, code) ∈ shortEscapes := by
  constructor
  · intro hescape
    unfold simpleEscape? at hescape
    split at hescape <;> cases hescape <;> decide
  · have hall : ∀ escape ∈ shortEscapes, simpleEscape? escape.1 = some escape.2 := by
      decide
    intro hescape
    exact hall _ hescape

theorem fourHexDigits?_eq_some_iff {a b c d : Char} {code : Nat} :
    fourHexDigits? a b c d = some code ↔
      ∃ w x y z, Text.hexDigit? a = some w ∧ Text.hexDigit? b = some x ∧
        Text.hexDigit? c = some y ∧ Text.hexDigit? d = some z ∧
        code = w * 0x1000 + x * 0x100 + y * 0x10 + z := by
  simp only [fourHexDigits?, Option.bind_eq_bind, Option.bind_eq_some_iff, Option.pure_def,
    Option.some.injEq]
  constructor
  · rintro ⟨w, ha, x, hb, y, hc, z, hd, rfl⟩
    exact ⟨w, x, y, z, ha, hb, hc, hd, by omega⟩
  · rintro ⟨w, x, y, z, ha, hb, hc, hd, rfl⟩
    exact ⟨w, ha, x, hb, y, hc, z, hd, by omega⟩

theorem spelledCodes_of_scanCodes? {found codes : List Nat} {text remaining : List Char}
    (hscan : scanCodes? found text = some (codes, remaining)) :
    ∃ more spelling, codes = found.reverse ++ more ∧ SpelledCodes more spelling ∧
      text = spelling ++ '"' :: remaining := by
  fun_induction scanCodes? found text with
  | case1 => cases hscan
  | case2 =>
      cases hscan
      exact ⟨[], [], (List.append_nil _).symm, .nil, rfl⟩
  | case3 => cases hscan
  | case4 found a b c d rest code hhex ih =>
      obtain ⟨more, spelling, rfl, hspelled, rfl⟩ := ih hscan
      obtain ⟨w, x, y, z, ha, hb, hc, hd, rfl⟩ := fourHexDigits?_eq_some_iff.1 hhex
      exact ⟨_ :: more, _, by simp, .hex ha hb hc hd hspelled, rfl⟩
  | case5 => cases hscan
  | case6 found sign rest hshort code hescape ih =>
      obtain ⟨more, spelling, rfl, hspelled, rfl⟩ := ih hscan
      exact ⟨code :: more, _, by simp, .short (simpleEscape?_eq_some_iff.1 hescape) hspelled, rfl⟩
  | case7 => cases hscan
  | case8 found plain rest hquote hhex hescape hplain ih =>
      obtain ⟨more, spelling, rfl, hspelled, rfl⟩ := ih hscan
      simp only [Bool.or_eq_true, decide_eq_true_eq, beq_iff_eq, not_or, Nat.not_lt] at hplain
      exact ⟨plain.toNat :: more, _, by simp, .plain hplain.1 hquote hplain.2 hspelled, rfl⟩

theorem scanCodes?_of_spelledCodes {codes : List Nat} {spelling : List Char}
    (hspelled : SpelledCodes codes spelling) (found : List Nat) (rest : List Char) :
    scanCodes? found (spelling ++ '"' :: rest) = some (found.reverse ++ codes, rest) := by
  induction hspelled generalizing found with
  | nil => simp [scanCodes?]
  | plain hcontrol hquote hbackslash _ ih =>
      rw [List.cons_append, scanCodes?_plain (Nat.not_lt.2 hcontrol) hquote hbackslash, ih]
      simp
  | @short sign code codes text hescape _ ih =>
      have hsign : sign ≠ 'u' := by
        rintro rfl
        exact absurd (simpleEscape?_eq_some_iff.2 hescape) nofun
      rw [List.cons_append, List.cons_append, scanCodes?, simpleEscape?_eq_some_iff.2 hescape]
      · dsimp only
        rw [ih]
        simp
      · rintro _ _ _ _ _ rfl
        exact fun _ => hsign rfl
  | hex ha hb hc hd _ ih =>
      simp only [List.cons_append]
      rw [scanCodes?, fourHexDigits?_eq_some_iff.2 ⟨_, _, _, _, ha, hb, hc, hd, rfl⟩]
      dsimp only
      rw [ih]
      simp

/-! ### Tokens -/

theorem spelled_of_scanOne? {text remaining : List Char} {token : Token}
    (hscan : scanOne? text = some (token, remaining)) :
    ∃ spelling, token.Spelled spelling ∧ text = spelling ++ remaining := by
  unfold scanOne? at hscan
  split at hscan
  case h_7 =>
    obtain ⟨⟨_, _⟩, hstring, heq⟩ := Option.map_eq_some_iff.1 hscan
    cases heq
    obtain ⟨more, spelling, rfl, hcodes, rfl⟩ := spelledCodes_of_scanCodes? hstring
    exact ⟨_, .string hcodes, by simp⟩
  case h_11 =>
    obtain ⟨⟨literal, _⟩, hnumber, heq⟩ := Option.map_eq_some_iff.1 hscan
    cases heq
    obtain ⟨hnumeral, rfl⟩ := isNumeral_of_scanNumber? hnumber
    exact ⟨literal, .number hnumeral, rfl⟩
  -- All other tokens have a single spelling.
  all_goals
    cases hscan
    refine ⟨_, by constructor, rfl⟩

/-- A numeral begins with a digit or a dash. -/
theorem head?_numeral {literal : List Char} (hnumeral : IsNumeral literal) :
    ∃ first others, literal = first :: others ∧ (first.isDigit = true ∨ first = '-') := by
  cases hnumeral with
  | negative _ _ _ => exact ⟨_, _, rfl, Or.inr rfl⟩
  | @unsigned whole fraction exponent hwhole _ _ =>
      cases whole with
      | nil => exact absurd rfl hwhole.1.1
      | cons first others =>
          exact ⟨first, _, rfl, Or.inl (hwhole.1.2 first List.mem_cons_self)⟩

/-- A token is scanned from its spelling, unless it is a number and what follows goes on with it. -/
theorem scanOne?_of_spelled {token : Token} {spelling rest : List Char}
    (hspelled : token.Spelled spelling)
    (hend : ∀ literal, token = .number literal → EndsNumber rest) :
    scanOne? (spelling ++ rest) = some (token, rest) := by
  cases hspelled with
  | number hnumeral =>
      have hscan := scanNumber?_of_isNumeral hnumeral (hend _ rfl)
      obtain ⟨first, others, rfl, hfirst⟩ := head?_numeral hnumeral
      have hne (c : Char) (hdigit : c.isDigit = false) (hdash : c ≠ '-') : first ≠ c := by
        rintro rfl
        rcases hfirst with hfirst | rfl
        · rw [hdigit] at hfirst
          cases hfirst
        · exact hdash rfl
      rw [List.cons_append] at hscan ⊢
      rw [scanOne?, hscan, Option.map_some]
      all_goals
        intro _ heq
        exact hne _ (by decide) (by decide) (List.cons.inj heq).1
  | string hcodes =>
      have htext (text : List Char) :
          '"' :: (text ++ ['"']) ++ rest = '"' :: (text ++ '"' :: rest) := by
        simp
      rw [htext, scanOne?, Token.scanString?, scanCodes?_of_spelledCodes hcodes]
      rfl
  | _ => rfl

/-! ### Rows of tokens -/

theorem isSpace_head?_spelled {token : Token} {spelling : List Char}
    (hspelled : token.Spelled spelling) :
    ∃ first others, spelling = first :: others ∧ isSpace first = false := by
  cases hspelled with
  | number hnumeral =>
      obtain ⟨first, others, rfl, hfirst⟩ := head?_numeral hnumeral
      refine ⟨first, others, rfl, ?_⟩
      rw [Bool.eq_false_iff]
      intro hspace
      simp only [isSpace, Bool.or_eq_true, beq_iff_eq] at hspace
      rcases hspace with ((rfl | rfl) | rfl) | rfl <;> simp at hfirst
  | _ => exact ⟨_, _, rfl, rfl⟩

theorem isBlank_nil : IsBlank [] := List.forall_mem_nil _

theorem isBlank_cons {first : Char} {rest : List Char} :
    IsBlank (first :: rest) ↔ isSpace first = true ∧ IsBlank rest :=
  List.forall_mem_cons

theorem scan?_blank {space : List Char} (hspace : IsBlank space) (rest : List Char) :
    scan? (space ++ rest) = scan? rest := by
  induction space with
  | nil => rfl
  | cons first others ih =>
      rw [isBlank_cons] at hspace
      rw [List.cons_append, Token.scan?_space hspace.1, ih hspace.2]

theorem scan?_spelled {token : Token} {spelling rest : List Char}
    (hspelled : token.Spelled spelling)
    (hend : ∀ literal, token = .number literal → EndsNumber rest) :
    scan? (spelling ++ rest) = (scan? rest).map (token :: ·) := by
  have hscan := scanOne?_of_spelled hspelled hend
  obtain ⟨first, others, rfl, hspace⟩ := isSpace_head?_spelled hspelled
  exact Token.scan?_token hspace hscan

theorem Layout.blank_append {tokens : List Token} {text space : List Char}
    (hlayout : Layout tokens text) (hspace : IsBlank space) : Layout tokens (space ++ text) := by
  cases hlayout with
  | blank hmore => exact .blank (List.forall_mem_append.2 ⟨hspace, hmore⟩)
  | token hmore hspelled hrest =>
      rw [← List.append_assoc]
      exact .token (List.forall_mem_append.2 ⟨hspace, hmore⟩) hspelled hrest

/-- Layouts may be put behind each other. -/
theorem Layout.append {tokens others : List Token} {text rest : List Char}
    (hlayout : Layout tokens text) (hrest : Layout others rest) :
    Layout (tokens ++ others) (text ++ rest) := by
  induction hlayout with
  | blank hspace => exact hrest.blank_append hspace
  | token hspace hspelled _ ih =>
      rw [List.cons_append, List.append_assoc, List.append_assoc]
      exact .token hspace hspelled ih

theorem Token.Spelled.layout {token : Token} {spelling : List Char}
    (hspelled : token.Spelled spelling) : Layout [token] spelling := by
  have hlayout := Layout.token isBlank_nil hspelled (.blank isBlank_nil)
  rwa [List.nil_append, List.append_nil] at hlayout

/-- A text that is scanned is a layout of the tokens found in it. -/
theorem layout_of_scan? {text : List Char} {tokens : List Token}
    (hscan : scan? text = some tokens) : Layout tokens text := by
  have hgeneral (found : List Token) (text : List Char) (tokens : List Token)
      (hscan : Token.scanBehind? found text = some tokens) :
      ∃ more, tokens = found.reverse ++ more ∧ Layout more text := by
    fun_induction Token.scanBehind? found text with
    | case1 found =>
        cases hscan
        exact ⟨[], (List.append_nil _).symm, .blank isBlank_nil⟩
    | case2 found first rest hspace ih =>
        obtain ⟨more, rfl, hlayout⟩ := ih hscan
        exact ⟨more, rfl, hlayout.blank_append (List.forall_mem_singleton.2 hspace)⟩
    | case3 => cases hscan
    | case4 found first rest hspace token remaining hone ih =>
        obtain ⟨more, rfl, hlayout⟩ := ih hscan
        obtain ⟨spelling, hspelled, htext⟩ := spelled_of_scanOne? hone
        refine ⟨token :: more, by simp, ?_⟩
        rw [htext]
        exact hspelled.layout.append hlayout
  obtain ⟨more, rfl, hlayout⟩ := hgeneral [] text tokens hscan
  exact hlayout

/-! ### Numbers among other tokens -/

def Token.isMark : Token → Bool
  | .openArray | .closeArray | .openObject | .closeObject | .comma | .colon => true
  | _ => false

/-- A mark follows each number that is not the last token. -/
def Apart (tokens : List Token) : Prop :=
  tokens.IsChain fun first second => (∃ literal, first = .number literal) → second.isMark = true

theorem Apart.cons {tokens : List Token} (hapart : Apart tokens) {first : Token}
    (hfirst : ∀ literal, first ≠ .number literal) : Apart (first :: tokens) :=
  List.isChain_cons.2 ⟨fun _ _ ⟨literal, hnumber⟩ => absurd hnumber (hfirst literal), hapart⟩

theorem endsNumber_nil : EndsNumber [] := nofun

theorem endsNumber_of_isSpace {first : Char} (hspace : isSpace first = true) (rest : List Char) :
    EndsNumber (first :: rest) := by
  rintro _ ⟨⟩
  simp only [isSpace, Bool.or_eq_true, beq_iff_eq] at hspace
  rcases hspace with ((rfl | rfl) | rfl) | rfl <;> decide

theorem endsNumber_blank_append {space rest : List Char} (hspace : IsBlank space)
    (hend : EndsNumber rest) : EndsNumber (space ++ rest) := by
  cases space with
  | nil => exact hend
  | cons first others => exact endsNumber_of_isSpace (isBlank_cons.1 hspace).1 _

theorem endsNumber_mark {mark : Token} (hmark : mark.isMark = true) {spelling : List Char}
    (hspelled : mark.Spelled spelling) (rest : List Char) : EndsNumber (spelling ++ rest) := by
  cases hspelled with
  | openArray | closeArray | openObject | closeObject | comma | colon =>
      rintro _ ⟨⟩
      decide
  | _ => cases hmark

/-- A number at the front of a layout is followed by what ends it. -/
theorem endsNumber_layout {literal : String} {tokens : List Token} {text rest : List Char}
    (hapart : Apart (.number literal :: tokens)) (hlayout : Layout tokens text)
    (hend : tokens = [] → EndsNumber rest) : EndsNumber (text ++ rest) := by
  cases hlayout with
  | blank hspace => exact endsNumber_blank_append hspace (hend rfl)
  | token hspace hspelled hrest =>
      have hmark := (List.isChain_cons.1 hapart).1 _ rfl ⟨literal, rfl⟩
      rw [List.append_assoc, List.append_assoc]
      exact endsNumber_blank_append hspace (endsNumber_mark hmark hspelled _)

/-- The tokens of a layout are found, and behind them those of the rest. -/
theorem scan?_layout {tokens : List Token} {text rest : List Char} (hlayout : Layout tokens text)
    (hapart : Apart tokens)
    (hend : ∀ literal, tokens.getLast? = some (.number literal) → EndsNumber rest) :
    scan? (text ++ rest) = (scan? rest).map (tokens ++ ·) := by
  induction hlayout with
  | blank hspace =>
      rw [scan?_blank hspace]
      exact Option.map_id'.symm
  | @token space spelling others first tokens hspace hspelled hrest ih =>
      have hfirst (literal : String) (hnumber : first = .number literal) :
          EndsNumber (others ++ rest) := by
        subst hnumber
        refine endsNumber_layout hapart hrest fun hnone => hend literal ?_
        rw [hnone]
        rfl
      have hlast (literal : String) (hlast : tokens.getLast? = some (.number literal)) :
          EndsNumber rest := by
        refine hend literal ?_
        rw [List.getLast?_cons, hlast]
        rfl
      rw [List.append_assoc, List.append_assoc, scan?_blank hspace, scan?_spelled hspelled hfirst,
        ih (List.isChain_cons.1 hapart).2 hlast, Option.map_map]
      rfl

/-- Tokens that stay apart from a mark behind them. -/
def Separates (part : List Token) : Prop :=
  ∀ (mark : Token) (tail : List Token), mark.isMark = true → Apart (mark :: tail) →
    Apart (part ++ mark :: tail)

theorem separates_commaRow {parts : List (List Token)}
    (hparts : ∀ part ∈ parts, Separates part) : Separates (commaRow parts) := by
  intro mark tail hmark htail
  induction parts with
  | nil => exact htail
  | cons part parts ih =>
      rw [List.forall_mem_cons] at hparts
      cases parts with
      | nil =>
          rw [commaRow, List.intercalate_singleton]
          exact hparts.1 mark tail hmark htail
      | cons next parts =>
          rw [commaRow, List.intercalate_cons_cons, List.append_assoc, List.append_assoc]
          exact hparts.1 .comma _ rfl ((ih hparts.2).cons nofun)

theorem separates_tokens (json : Json) : Separates json.tokens := by
  have hsingle (token : Token) : Separates [token] := by
    intro mark tail hmark htail
    exact List.isChain_cons_cons.2 ⟨fun _ => hmark, htail⟩
  induction json using inductionOnParts with
  | null => exact hsingle _
  | bool value => exact hsingle _
  | number literal => exact hsingle _
  | string codes => exact hsingle _
  | array items ih =>
      intro mark tail _ htail
      rw [tokens_array, List.cons_append, List.append_assoc]
      refine (separates_commaRow (List.forall_mem_map.2 ih) _ _ rfl ?_).cons nofun
      exact htail.cons nofun
  | object members ih =>
      intro mark tail _ htail
      rw [tokens_object, List.cons_append, List.append_assoc]
      refine (separates_commaRow (List.forall_mem_map.2 fun member hmember => ?_) _ _ rfl ?_).cons
        nofun
      · intro mark tail hmark htail
        have hvalue : Apart (.colon :: (member.2.tokens ++ mark :: tail)) :=
          (ih member hmember mark tail hmark htail).cons nofun
        exact hvalue.cons nofun
      · exact htail.cons nofun

theorem apart_tokens (json : Json) : Apart json.tokens :=
  List.IsChain.left_of_append (separates_tokens json .comma [] rfl (List.isChain_singleton _))

theorem scan?_of_spelledBy {json : Json} {text : String} (hspelled : json.SpelledBy text) :
    scan? text.toList = some json.tokens := by
  have hscan : scan? (text.toList ++ []) = _ :=
    scan?_layout hspelled (apart_tokens json) fun _ _ => endsNumber_nil
  rw [List.append_nil, Token.scan?_nil] at hscan
  simpa using hscan

end NamingCheck.Json
