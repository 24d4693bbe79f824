import Mathlib.Data.List.TakeWhile
import NamingCheck.Text.Blank
import NamingCheck.Text.Parts

/-!
# Where texts are cut and trimmed

Double colons are taken from left to right, so of three colons in a row the first two separate. What
is trimmed off a text is all that is blank at its ends, and nothing else.
-/

namespace NamingCheck.Text

/-! ### Beginnings -/

theorem after?_append (beginning rest : List Char) :
    after? beginning (beginning ++ rest) = some rest := by
  rw [after?, if_pos (List.isPrefixOf_iff_prefix.2 (List.prefix_append _ _)), List.drop_left]

theorem after?_of_not_prefix {beginning text : List Char} (hbegins : ¬beginning <+: text) :
    after? beginning text = none := by
  rw [after?, if_neg fun h => hbegins (List.isPrefixOf_iff_prefix.1 h)]

theorem without_append (beginning rest : List Char) :
    without beginning (beginning ++ rest) = rest := by
  rw [without, after?_append, Option.getD_some]

theorem without_of_not_prefix {beginning text : List Char} (hbegins : ¬beginning <+: text) :
    without beginning text = text := by
  rw [without, after?_of_not_prefix hbegins, Option.getD_none]

/-! ### Double colons -/

def scopeSign : List Char := [':', ':']

/-- The number of double colons, taken from left to right so that no two share a colon. -/
def countScopes : List Char → Nat
  | [] => 0
  | ':' :: ':' :: rest => countScopes rest + 1
  | _ :: rest => countScopes rest

/-- The text is cut at the first double colon, and what is behind it is cut likewise. -/
inductive CutAtScopes : List Char → List (List Char) → Prop
  | last {segment : List Char} (hnone : ¬scopeSign <:+: segment) : CutAtScopes segment [segment]
  | cut {segment rest : List Char} {others : List (List Char)}
      (hfirst : ¬scopeSign <:+: segment ++ [':']) (hrest : CutAtScopes rest others) :
      CutAtScopes (segment ++ scopeSign ++ rest) (segment :: others)

theorem splitScopes_ne_nil (text : List Char) : splitScopes text ≠ [] := by
  fun_cases splitScopes text <;> simp_all

/-- A sign in front makes a double colon only if it is a colon and another follows. -/
theorem not_scopeSign_infix_cons {c : Char} {text : List Char} (hnone : ¬scopeSign <:+: text)
    (hfront : c = ':' → text.head? ≠ some ':') : ¬scopeSign <:+: c :: text := by
  rw [List.infix_cons_iff, not_or]
  refine ⟨?_, hnone⟩
  rintro ⟨rest, hrest⟩
  obtain ⟨rfl, rfl⟩ := List.cons.inj hrest
  exact hfront rfl rfl

theorem CutAtScopes.cons {c : Char} {text segment : List Char} {others : List (List Char)}
    (hcut : CutAtScopes text (segment :: others)) (hfront : c = ':' → text.head? ≠ some ':') :
    CutAtScopes (c :: text) ((c :: segment) :: others) := by
  cases hcut with
  | last hnone => exact .last (not_scopeSign_infix_cons hnone hfront)
  | @cut _ rest _ hfirst hrest =>
      have hfirst : ¬scopeSign <:+: (c :: segment) ++ [':'] := by
        refine not_scopeSign_infix_cons hfirst fun hc => ?_
        have hhead := hfront hc
        cases segment with
        | nil => exact absurd rfl hhead
        | cons first more => exact hhead
      exact .cut hfirst hrest

theorem cutAtScopes_splitScopes (text : List Char) : CutAtScopes text (splitScopes text) := by
  fun_induction splitScopes text with
  | case1 => exact .last (by decide)
  | case2 rest ih =>
      have hfirst : ¬scopeSign <:+: [] ++ [':'] := by decide
      exact .cut hfirst ih
  | case3 c rest hfront hnil => exact absurd hnil (splitScopes_ne_nil rest)
  | case4 c rest hfront segment others hsplit ih =>
      rw [hsplit] at ih
      refine ih.cons fun hc hhead => ?_
      cases rest with
      | nil => cases hhead
      | cons next more => exact hfront more hc (by rw [Option.some.inj hhead])

example : splitScopes "a:::b".toList = ["a".toList, ":b".toList] := by decide

theorem length_splitScopes (text : List Char) :
    (splitScopes text).length = countScopes text + 1 := by
  fun_induction splitScopes text with
  | case1 => rfl
  | case2 rest ih => rw [List.length_cons, ih, countScopes]
  | case3 c rest hfront hnil => exact absurd hnil (splitScopes_ne_nil rest)
  | case4 c rest hfront segment others hsplit ih =>
      rw [countScopes.eq_3 _ _ hfront, ← ih, hsplit]
      rfl

/-! ### Blanks at the ends -/

/-- The core of a text neither begins nor ends with a blank, and around it there are only blanks. -/
structure IsCore (text core : List Char) : Prop where
  exists_blanks : ∃ before after, text = before ++ core ++ after ∧
    (∀ c ∈ before, isBlank c = true) ∧ ∀ c ∈ after, isBlank c = true
  head_not_blank : ∀ c ∈ core.head?, isBlank c = false
  last_not_blank : ∀ c ∈ core.getLast?, isBlank c = false

theorem isBlank_head?_dropWhile (text : List Char) :
    ∀ c ∈ (text.dropWhile isBlank).head?, isBlank c = false := by
  intro c hc
  have hhead := List.head?_dropWhile_not isBlank text
  rw [Option.mem_def.1 hc] at hhead
  exact hhead

theorem isCore_trim (text : List Char) : IsCore text (trim text) := by
  -- First the blanks in front are dropped, then those at the end of what is left.
  have hfront := List.takeWhile_append_dropWhile (p := isBlank) (l := text)
  generalize hrest : text.dropWhile isBlank = rest at hfront
  have hback : trim text ++ (rest.reverse.takeWhile isBlank).reverse = rest := by
    rw [trim, trimBoth, trimEnd, hrest, ← List.reverse_append, List.takeWhile_append_dropWhile,
      List.reverse_reverse]
  refine ⟨⟨text.takeWhile isBlank, (rest.reverse.takeWhile isBlank).reverse, ?_, ?_, ?_⟩, ?_, ?_⟩
  · rw [List.append_assoc, hback, hfront]
  · exact fun c hc => List.mem_takeWhile_imp hc
  · exact fun c hc => List.mem_takeWhile_imp (List.mem_reverse.1 hc)
  · intro c hc
    have hhead := isBlank_head?_dropWhile text c
    rw [hrest, ← hback, List.head?_append, Option.mem_def.1 hc] at hhead
    exact hhead rfl
  · intro c hc
    rw [trim, trimBoth, trimEnd, List.getLast?_reverse] at hc
    exact isBlank_head?_dropWhile _ c hc

theorem trim_of_not_blank {text : List Char} (hhead : ∀ c ∈ text.head?, isBlank c = false)
    (hlast : ∀ c ∈ text.getLast?, isBlank c = false) : trim text = text := by
  have hkept {letters : List Char} (hfirst : ∀ c ∈ letters.head?, isBlank c = false) :
      letters.dropWhile isBlank = letters := by
    cases letters with
    | nil => rfl
    | cons c rest => rw [List.dropWhile_cons_of_neg (by simp [hfirst c rfl])]
  rw [trim, trimBoth, hkept hhead, trimEnd, hkept (List.head?_reverse ▸ hlast),
    List.reverse_reverse]

end NamingCheck.Text
