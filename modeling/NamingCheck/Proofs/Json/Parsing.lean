import NamingCheck.Json.Parser
import NamingCheck.Proofs.Json.Scanning

/-!
# The parser reads just the texts of a value

What the parser has taken so far can be told from its state: the unfinished arrays and objects with
their finished parts. So a value comes out only after just its own tokens. The other way round, the
tokens of a value take the parser from where a value is awaited to where it is delivered, whatever
is unfinished around it.
-/

universe u

namespace NamingCheck.Json

open Expectation (beginValue? deliver result? step?)

/-! ### Parts between commas -/

theorem commaRow_cons (first : List Token) (parts : List (List Token)) :
    commaRow (first :: parts) = first ++ parts.flatMap (.comma :: ·) := by
  induction parts generalizing first with
  | nil => simp [commaRow]
  | cons next parts ih =>
      have hnext := ih next
      rw [commaRow] at hnext
      rw [commaRow, List.intercalate_cons_cons, hnext, List.flatMap_cons, List.append_assoc,
        List.singleton_append, List.cons_append]

section

variable {α : Type u} (write : α → List Token)

theorem commaRow_concat (parts : List α) (last : α) :
    commaRow ((parts ++ [last]).map write) =
      parts.flatMap (fun part => write part ++ [.comma]) ++ write last := by
  induction parts with
  | nil => exact List.intercalate_singleton
  | cons first rest ih =>
      have hcons : commaRow (write first :: (rest ++ [last]).map write) =
          write first ++ [.comma] ++ commaRow ((rest ++ [last]).map write) := by
        cases rest <;> exact List.intercalate_cons_cons
      rw [List.cons_append, List.map_cons, hcons, ih, List.flatMap_cons,
        List.append_assoc _ _ (write last)]

/-- Parts that were found latest first, with a comma behind each. -/
def commaEnded (found : List α) : List Token :=
  found.reverse.flatMap fun part => write part ++ [.comma]

theorem commaEnded_cons (last : α) (found : List α) :
    commaEnded write (last :: found) = commaEnded write found ++ (write last ++ [.comma]) := by
  rw [commaEnded, commaEnded, List.reverse_cons, List.flatMap_append, List.flatMap_singleton]

theorem commaRow_reverse_cons (last : α) (found : List α) :
    commaRow ((last :: found).reverse.map write) = commaEnded write found ++ write last := by
  rw [List.reverse_cons, commaRow_concat, commaEnded]

end

/-! ### Where a value begins -/

/-- Where a value may begin. The array that was just opened could also end here. -/
def Awaits (state : Expectation) (frames : List Frame) : Prop :=
  ∀ token, token ≠ .closeArray → step? state token = beginValue? frames token

theorem awaits_value (frames : List Frame) : Awaits (.value frames) frames :=
  fun _ _ => rfl

theorem awaits_firstItem (frames : List Frame) :
    Awaits (.firstItem frames) (.array [] :: frames) := by
  intro token htoken
  cases token with
  | closeArray => exact absurd rfl htoken
  | _ => rfl

/-! ### What has been taken -/

/-- The tokens that have led into unfinished arrays and objects. -/
inductive Opens : List Frame → List Token → Prop
  | nil : Opens [] []
  | array {frames : List Frame} {taken : List Token} (items : List Json)
      (hopens : Opens frames taken) :
      Opens (.array items :: frames) (taken ++ .openArray :: commaEnded tokens items)
  | member {frames : List Frame} {taken : List Token} (members : List (List Nat × Json))
      (key : List Nat) (hopens : Opens frames taken) :
      Opens (.member members key :: frames)
        (taken ++ .openObject :: (commaEnded memberTokens members ++ [.string key, .colon]))

/-- The tokens that have led to a state. -/
inductive Taken : Expectation → List Token → Prop
  | value {frames : List Frame} {taken : List Token} (hopens : Opens frames taken) :
      Taken (.value frames) taken
  | firstItem {frames : List Frame} {taken : List Token} (hopens : Opens frames taken) :
      Taken (.firstItem frames) (taken ++ [.openArray])
  | afterItem {frames : List Frame} {taken : List Token} (last : Json) (items : List Json)
      (hopens : Opens frames taken) :
      Taken (.afterItem (last :: items) frames)
        (taken ++ .openArray :: (commaEnded tokens items ++ last.tokens))
  | firstKey {frames : List Frame} {taken : List Token} (hopens : Opens frames taken) :
      Taken (.firstKey frames) (taken ++ [.openObject])
  | nextKey {frames : List Frame} {taken : List Token} (members : List (List Nat × Json))
      (hopens : Opens frames taken) :
      Taken (.nextKey members frames) (taken ++ .openObject :: commaEnded memberTokens members)
  | colon {frames : List Frame} {taken : List Token} (members : List (List Nat × Json))
      (key : List Nat) (hopens : Opens frames taken) :
      Taken (.colon members key frames)
        (taken ++ .openObject :: (commaEnded memberTokens members ++ [.string key]))
  | afterMember {frames : List Frame} {taken : List Token} (last : List Nat × Json)
      (members : List (List Nat × Json)) (hopens : Opens frames taken) :
      Taken (.afterMember (last :: members) frames)
        (taken ++ .openObject :: (commaEnded memberTokens members ++ memberTokens last))
  | nothing (json : Json) : Taken (.nothing json) json.tokens

section

variable {frames : List Frame} {taken : List Token} {state next : Expectation} {token : Token}

theorem Opens.deliver (hopens : Opens frames taken) (json : Json) :
    Taken (deliver json frames) (taken ++ json.tokens) := by
  cases hopens with
  | nil => exact .nothing json
  | array items hopens =>
      rw [List.append_assoc, List.cons_append]
      exact .afterItem json items hopens
  | member members key hopens =>
      rw [List.append_assoc, List.cons_append, List.append_assoc]
      exact .afterMember (key, json) members hopens

theorem Opens.beginValue? (hopens : Opens frames taken)
    (hbegin : beginValue? frames token = some next) : Taken next (taken ++ [token]) := by
  cases token <;> cases hbegin
  case openArray => exact .firstItem hopens
  case openObject => exact .firstKey hopens
  case null => exact hopens.deliver .null
  case bool value => exact hopens.deliver (.bool value)
  case number literal => exact hopens.deliver (.number literal)
  case string codes => exact hopens.deliver (.string codes)

theorem Opens.firstItem_step? (hopens : Opens frames taken)
    (hstep : step? (.firstItem frames) token = some next) :
    Taken next (taken ++ [.openArray, token]) := by
  by_cases hclose : token = .closeArray
  · subst hclose
    cases hstep
    exact hopens.deliver (.array [])
  · rw [awaits_firstItem frames token hclose] at hstep
    have hbegin := (hopens.array []).beginValue? hstep
    rwa [List.append_assoc] at hbegin

theorem Opens.afterItem_step? (hopens : Opens frames taken) {last : Json} {items : List Json}
    (hstep : step? (.afterItem (last :: items) frames) token = some next) :
    Taken next (taken ++ .openArray :: (commaEnded tokens items ++ (last.tokens ++ [token]))) := by
  cases token with
  | comma =>
      cases hstep
      have hframe := hopens.array (last :: items)
      rw [commaEnded_cons] at hframe
      exact .value hframe
  | closeArray =>
      cases hstep
      have hdone := hopens.deliver (.array (last :: items).reverse)
      rwa [tokens_array, commaRow_reverse_cons, List.append_assoc] at hdone
  | _ => cases hstep

theorem Opens.firstKey_step? (hopens : Opens frames taken)
    (hstep : step? (.firstKey frames) token = some next) :
    Taken next (taken ++ [.openObject, token]) := by
  cases token with
  | string key =>
      cases hstep
      exact .colon [] key hopens
  | closeObject =>
      cases hstep
      exact hopens.deliver (.object [])
  | _ => cases hstep

theorem Opens.afterMember_step? (hopens : Opens frames taken) {last : List Nat × Json}
    {members : List (List Nat × Json)}
    (hstep : step? (.afterMember (last :: members) frames) token = some next) :
    Taken next (taken ++ .openObject ::
      (commaEnded memberTokens members ++ (memberTokens last ++ [token]))) := by
  cases token with
  | comma =>
      cases hstep
      have hframe := Taken.nextKey (last :: members) hopens
      rwa [commaEnded_cons] at hframe
  | closeObject =>
      cases hstep
      have hdone := hopens.deliver (.object (last :: members).reverse)
      rwa [tokens_object, commaRow_reverse_cons, List.append_assoc] at hdone
  | _ => cases hstep

/-- Whatever token is taken, it stands behind those taken before. -/
theorem Taken.step? (htaken : Taken state taken) (hstep : step? state token = some next) :
    Taken next (taken ++ [token]) := by
  cases htaken with
  | value hopens => exact hopens.beginValue? hstep
  | firstItem hopens =>
      rw [List.append_assoc]
      exact hopens.firstItem_step? hstep
  | afterItem last items hopens =>
      rw [List.append_assoc, List.cons_append, List.append_assoc]
      exact hopens.afterItem_step? hstep
  | firstKey hopens =>
      rw [List.append_assoc]
      exact hopens.firstKey_step? hstep
  | nextKey members hopens =>
      cases token with
      | string key =>
          cases hstep
          rw [List.append_assoc, List.cons_append]
          exact .colon members key hopens
      | _ => cases hstep
  | colon members key hopens =>
      cases token with
      | colon =>
          cases hstep
          rw [List.append_assoc, List.cons_append, List.append_assoc]
          exact .value (hopens.member members key)
      | _ => cases hstep
  | afterMember last members hopens =>
      rw [List.append_assoc, List.cons_append, List.append_assoc]
      exact hopens.afterMember_step? hstep
  | nothing json => cases hstep

theorem Taken.foldlM {tokens : List Token} (htaken : Taken state taken)
    (hfold : tokens.foldlM Expectation.step? state = some next) : Taken next (taken ++ tokens) := by
  induction tokens generalizing state taken with
  | nil =>
      cases hfold
      rwa [List.append_nil]
  | cons token rest ih =>
      obtain ⟨middle, hstep, hrest⟩ := Option.bind_eq_some_iff.1 hfold
      rw [← List.singleton_append, ← List.append_assoc]
      exact ih (htaken.step? hstep) hrest

/-- A value comes out of no tokens but its own. -/
theorem eq_tokens_of_ofTokens? {found : List Token} {json : Json}
    (hparse : ofTokens? found = some json) : found = json.tokens := by
  obtain ⟨final, hfold, hresult⟩ := Option.bind_eq_some_iff.1 hparse
  have htaken : Taken final found := (Taken.value .nil).foldlM hfold
  cases htaken <;> cases hresult
  rfl

/-! ### What the tokens of a value do -/

theorem foldlM_step? (hstep : step? state token = some next) (rest : List Token) :
    (token :: rest).foldlM step? state = rest.foldlM step? next := by
  rw [List.foldlM_cons, hstep]
  rfl

theorem Awaits.step? (hawaits : Awaits state frames)
    (hbegin : beginValue? frames token = some next) :
    Expectation.step? state token = some next := by
  have htoken : token ≠ .closeArray := by
    rintro rfl
    cases hbegin
  rw [hawaits token htoken, hbegin]

/-- At any place the tokens of the value do what the value itself does. -/
def Delivers (json : Json) : Prop :=
  ∀ (state : Expectation) (frames : List Frame) (rest : List Token), Awaits state frames →
    (json.tokens ++ rest).foldlM step? state = rest.foldlM step? (deliver json frames)

/-- What is found among the parts is kept latest first. -/
theorem foldlM_furtherParts {α : Type u} {write : α → List Token} {after : List α → Expectation}
    {parts : List α}
    (hpart : ∀ part ∈ parts, ∀ (found : List α) (rest : List Token),
      (.comma :: (write part ++ rest)).foldlM step? (after found) =
        rest.foldlM step? (after (part :: found)))
    (found : List α) (rest : List Token) :
    ((parts.map write).flatMap (.comma :: ·) ++ rest).foldlM step? (after found) =
      rest.foldlM step? (after (parts.reverse ++ found)) := by
  induction parts generalizing found with
  | nil => rfl
  | cons part parts ih =>
      rw [List.forall_mem_cons] at hpart
      rw [List.map_cons, List.flatMap_cons, List.append_assoc, List.cons_append, hpart.1,
        ih hpart.2, List.reverse_cons, List.append_assoc, List.singleton_append]

theorem delivers_array {items : List Json} (hitems : ∀ item ∈ items, Delivers item) :
    Delivers (.array items) := by
  intro state frames rest hawaits
  rw [tokens_array, List.cons_append, foldlM_step? (hawaits.step? rfl)]
  cases items with
  | nil => exact foldlM_step? rfl rest
  | cons first items =>
      rw [List.forall_mem_cons] at hitems
      have hfurther (item : Json) (hitem : item ∈ items) (found : List Json) (rest : List Token) :
          (.comma :: (item.tokens ++ rest)).foldlM step? (.afterItem found frames) =
            rest.foldlM step? (.afterItem (item :: found) frames) := by
        rw [foldlM_step? rfl, hitems.2 item hitem _ _ _ (awaits_value _)]
        rfl
      have hfirst : deliver first (.array [] :: frames) = .afterItem [first] frames := rfl
      rw [List.map_cons, commaRow_cons, List.append_assoc, List.append_assoc,
        hitems.1 _ _ _ (awaits_firstItem frames), hfirst, foldlM_furtherParts hfurther,
        List.singleton_append, foldlM_step? rfl, List.reverse_append, List.reverse_reverse,
        List.reverse_singleton, List.singleton_append]

theorem foldlM_memberTokens {member : List Nat × Json} (hvalue : Delivers member.2)
    {found : List (List Nat × Json)}
    (hstep : step? state (.string member.1) = some (.colon found member.1 frames))
    (rest : List Token) :
    (memberTokens member ++ rest).foldlM step? state =
      rest.foldlM step? (.afterMember (member :: found) frames) := by
  rw [memberTokens, List.cons_append, List.cons_append, foldlM_step? hstep, foldlM_step? rfl,
    hvalue _ _ _ (awaits_value _)]
  rfl

theorem delivers_object {members : List (List Nat × Json)}
    (hmembers : ∀ member ∈ members, Delivers member.2) : Delivers (.object members) := by
  intro state frames rest hawaits
  rw [tokens_object, List.cons_append, foldlM_step? (hawaits.step? rfl)]
  cases members with
  | nil => exact foldlM_step? rfl rest
  | cons first members =>
      rw [List.forall_mem_cons] at hmembers
      have hfurther (member : List Nat × Json) (hmember : member ∈ members)
          (found : List (List Nat × Json)) (rest : List Token) :
          (.comma :: (memberTokens member ++ rest)).foldlM step? (.afterMember found frames) =
            rest.foldlM step? (.afterMember (member :: found) frames) := by
        rw [foldlM_step? rfl, foldlM_memberTokens (hmembers.2 member hmember) rfl]
      rw [List.map_cons, commaRow_cons, List.append_assoc, List.append_assoc,
        foldlM_memberTokens hmembers.1 rfl, foldlM_furtherParts hfurther, List.singleton_append,
        foldlM_step? rfl, List.reverse_append, List.reverse_reverse, List.reverse_singleton,
        List.singleton_append]

theorem delivers (json : Json) : Delivers json := by
  induction json using inductionOnParts with
  | array items ih => exact delivers_array ih
  | object members ih => exact delivers_object ih
  | _ => exact fun _ _ rest hawaits => foldlM_step? (hawaits.step? rfl) rest

theorem ofTokens?_tokens (json : Json) : ofTokens? json.tokens = some json := by
  have hfold := delivers json (.value []) [] [] (awaits_value [])
  rw [List.append_nil] at hfold
  rw [ofTokens?, hfold]
  rfl

/-- The texts in which a value is found are the texts of that value. -/
theorem parse?_eq_some_iff {text : String} {json : Json} :
    parse? text = some json ↔ json.SpelledBy text := by
  constructor
  · intro hparse
    obtain ⟨found, hscan, htokens⟩ := Option.bind_eq_some_iff.1 hparse
    rw [SpelledBy, ← eq_tokens_of_ofTokens? htokens]
    exact layout_of_scan? hscan
  · intro hspelled
    rw [parse?, scan?_of_spelledBy hspelled, Option.bind_some, ofTokens?_tokens]

end

end NamingCheck.Json
