import NamingCheck.Proofs.Json.Parsing

/-!
# An object is found in its whole text only

Behind the tokens of a value nothing may follow, so behind a closing brace nothing but white space
can stand. A text that begins as an object's holds an object if it holds a value at all. So an
object's text that was cut before its closing brace holds no value: what was cut off would have to
be white space.
-/

namespace NamingCheck.Json

open Expectation (step?)
open Token (isSpace scan?)

/-! ### What may follow a value -/

/-- No value's tokens go on where those of another end. -/
theorem eq_nil_of_tokens_append {json other : Json} {more : List Token}
    (htokens : json.tokens ++ more = other.tokens) : more = [] := by
  have hdone := ofTokens?_tokens other
  rw [← htokens, ofTokens?, delivers json _ [] more (awaits_value [])] at hdone
  cases more with
  | nil => rfl
  | cons token more => cases hdone

/-- Only white space may follow an object. -/
theorem isBlank_of_parse?_append {members : List (List Nat × Json)} {text rest : String}
    {json : Json} (hspelled : (object members).SpelledBy text)
    (hparse : parse? (text ++ rest) = some json) : IsBlank rest.toList := by
  have hlast (literal : String) : (object members).tokens.getLast? ≠ some (.number literal) := by
    rw [tokens_object, ← List.cons_append, List.getLast?_concat]
    nofun
  have hscan := scan?_of_spelledBy (parse?_eq_some_iff.1 hparse)
  rw [String.toList_append, scan?_layout hspelled (apart_tokens _)
    fun literal hnumber => absurd hnumber (hlast literal)] at hscan
  obtain ⟨more, hmore, htokens⟩ := Option.map_eq_some_iff.1 hscan
  rw [eq_nil_of_tokens_append htokens] at hmore
  cases layout_of_scan? hmore with
  | blank hspace => exact hspace

/-! ### How an object begins -/

theorem Token.Spelled.head?_eq_brace_iff {token : Token} {spelling : List Char}
    (hspelled : token.Spelled spelling) :
    spelling.head? = some '\x7b' ↔ token = .openObject := by
  cases hspelled with
  | number hnumeral =>
      obtain ⟨first, others, rfl, hfirst⟩ := head?_numeral hnumeral
      refine iff_of_false ?_ nofun
      rintro ⟨⟩
      rcases hfirst with hfirst | hfirst <;> cases hfirst
  | _ => simp

/-- The first character that is no white space tells whether the first token opens an object. -/
theorem Layout.find?_eq_brace_iff {token : Token} {tokens : List Token} {text : List Char}
    (hlayout : Layout (token :: tokens) text) :
    ∃ first, text.find? (!isSpace ·) = some first ∧ (first = '\x7b' ↔ token = .openObject) := by
  cases hlayout with
  | @token space spelling rest _ _ hspace hspelled hrest =>
      have hopens := hspelled.head?_eq_brace_iff
      obtain ⟨first, others, rfl, hfirst⟩ := isSpace_head?_spelled hspelled
      refine ⟨first, ?_, ?_⟩
      · have hnone : space.find? (!isSpace ·) = none := by
          rw [List.find?_eq_none]
          intro c hc
          simp [hspace c hc]
        rw [List.find?_append, hnone, Option.none_or, List.cons_append]
        exact List.find?_cons_of_pos (by simp [hfirst])
      · rwa [List.head?_cons, Option.some_inj] at hopens

theorem tokens_ne_nil (json : Json) : json.tokens ≠ [] := by
  cases json <;> exact List.cons_ne_nil _ _

theorem exists_eq_object_of_tokens {json : Json} {tokens : List Token}
    (htokens : json.tokens = .openObject :: tokens) : ∃ members, json = .object members := by
  cases json with
  | object members => exact ⟨members, rfl⟩
  | _ => cases htokens

/-- A value at the front of an object's text is an object. -/
theorem exists_eq_object_of_spelledBy {members : List (List Nat × Json)} {text rest : String}
    {json : Json} (hobject : (object members).SpelledBy (text ++ rest))
    (hspelled : json.SpelledBy text) : ∃ others, json = .object others := by
  rw [SpelledBy, tokens_object, String.toList_append] at hobject
  obtain ⟨first, hfirst, hopens⟩ := hobject.find?_eq_brace_iff
  cases htokens : json.tokens with
  | nil => exact absurd htokens json.tokens_ne_nil
  | cons token tokens =>
      rw [SpelledBy, htokens] at hspelled
      obtain ⟨other, hother, hopensOther⟩ := hspelled.find?_eq_brace_iff
      rw [List.find?_append, hother, Option.some_or, Option.some_inj] at hfirst
      subst hfirst
      cases hopensOther.1 (hopens.2 rfl)
      exact exists_eq_object_of_tokens htokens

/-- Without its end an object's text holds no value. -/
theorem parse?_eq_none_of_cut {members : List (List Nat × Json)} {text rest : String}
    (hobject : (object members).SpelledBy (text ++ rest))
    (hclosed : (text ++ rest).toList.getLast? = some '\x7d') (hrest : rest ≠ "") :
    parse? text = none := by
  rw [Option.eq_none_iff_forall_ne_some]
  intro json hparse
  have hspelled := parse?_eq_some_iff.1 hparse
  obtain ⟨others, rfl⟩ := exists_eq_object_of_spelledBy hobject hspelled
  have hblank := isBlank_of_parse?_append hspelled (parse?_eq_some_iff.2 hobject)
  have hsome : rest.toList ≠ [] := by
    rwa [Ne, String.toList_eq_nil_iff]
  rw [String.toList_append, List.getLast?_append_of_ne_nil _ hsome] at hclosed
  exact absurd (hblank _ (List.mem_of_getLast? hclosed)) (by decide)

end NamingCheck.Json
