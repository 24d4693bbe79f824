import NamingCheck.Proofs.Declarator.FunctionLayer
import NamingCheck.Proofs.Declarator.Scopes
import NamingCheck.Proofs.Text.Parts

/-!
# The names of operators

An operator is spelled with whatever blanks the source has, but named in one way only. The keyword
comes first; a word is set off from it by a space, anything else follows at once; there are no
further blanks. So two spellings give the same name just if they differ in blanks alone.
-/

namespace NamingCheck.Declarator

open Text (isBlank withoutBlanks without)

/-! ### Texts -/

/-- The one way in which an operator is named. -/
inductive IsOperatorText : List Char → Prop where
  | sign {signs : List Char} (hfirst : ∀ c ∈ signs.head?, isAsciiLetter c = false)
      (hsigns : ∀ c ∈ signs, isBlank c = false) : IsOperatorText (operatorKeyword ++ signs)
  | word {first : Char} {rest : List Char} (hfirst : isAsciiLetter first = true)
      (hword : ∀ c ∈ first :: rest, isBlank c = false) :
      IsOperatorText (operatorKeyword ++ ' ' :: first :: rest)

theorem withoutBlanks_append (left right : List Char) :
    withoutBlanks (left ++ right) = withoutBlanks left ++ withoutBlanks right :=
  List.filter_append left right

theorem withoutBlanks_keyword : withoutBlanks operatorKeyword = operatorKeyword := by decide

theorem isBlank_eq_false_of_mem_withoutBlanks {c : Char} {text : List Char}
    (hmem : c ∈ withoutBlanks text) : isBlank c = false := by
  simpa using (List.mem_filter.1 hmem).2

theorem withoutBlanks_eq_self {text : List Char} (hnone : ∀ c ∈ text, isBlank c = false) :
    withoutBlanks text = text :=
  List.filter_eq_self.2 fun c hc => by rw [hnone c hc]; rfl

theorem isOperatorText_operatorText (text : List Char) : IsOperatorText (operatorText text) := by
  have hnone (c : Char) (hc : c ∈ withoutBlanks (without operatorKeyword text)) :
      isBlank c = false := isBlank_eq_false_of_mem_withoutBlanks hc
  rw [operatorText]
  split
  · have hbare : IsOperatorText (operatorKeyword ++ []) := .sign (by simp) (by simp)
    exact hbare
  · next first rest hletters =>
      rw [hletters] at hnone
      split_ifs with hfirst
      · exact .word hfirst hnone
      · refine .sign (fun c hc => ?_) hnone
        rw [← Option.some.inj hc]
        exact Bool.eq_false_iff.2 hfirst

example : operatorText "operator new []".toList = "operator new[]".toList := by decide

theorem IsOperatorText.beginsWithKeyword {text : List Char} (htext : IsOperatorText text) :
    operatorKeyword <+: text := by
  cases htext with
  | sign => exact List.prefix_append _ _
  | word => exact List.prefix_append _ _

theorem IsOperatorText.operatorText_eq {text : List Char} (htext : IsOperatorText text) :
    operatorText text = text := by
  cases htext with
  | @sign signs hfirst hsigns =>
      rw [operatorText, Text.without_append, withoutBlanks_eq_self hsigns]
      cases signs with
      | nil => rfl
      | cons first rest => exact if_neg (Bool.eq_false_iff.1 (hfirst first rfl))
  | @word first rest hfirst hword =>
      have hletters : withoutBlanks (' ' :: first :: rest) = first :: rest :=
        withoutBlanks_eq_self hword
      rw [operatorText, Text.without_append, hletters]
      exact if_pos hfirst

theorem withoutBlanks_operatorText (text : List Char) :
    withoutBlanks (operatorText text) =
      operatorKeyword ++ withoutBlanks (without operatorKeyword text) := by
  have hletters : withoutBlanks (withoutBlanks (without operatorKeyword text)) =
      withoutBlanks (without operatorKeyword text) :=
    withoutBlanks_eq_self fun c hc => isBlank_eq_false_of_mem_withoutBlanks hc
  rw [operatorText]
  split
  · next hnil => rw [hnil, withoutBlanks_keyword, List.append_nil]
  · next first rest hcons =>
      rw [hcons] at hletters ⊢
      -- The space in front of a word is lost again.
      have hspaced : withoutBlanks (' ' :: first :: rest) = withoutBlanks (first :: rest) := rfl
      split_ifs
      · rw [withoutBlanks_append, withoutBlanks_keyword, hspaced, hletters]
      · rw [withoutBlanks_append, withoutBlanks_keyword, hletters]

theorem operatorText_keyword_append_eq_iff {left right : List Char} :
    operatorText (operatorKeyword ++ left) = operatorText (operatorKeyword ++ right) ↔
      withoutBlanks (operatorKeyword ++ left) = withoutBlanks (operatorKeyword ++ right) := by
  have hletters (spelled : List Char) : withoutBlanks (operatorKeyword ++ spelled) =
      withoutBlanks (operatorText (operatorKeyword ++ spelled)) := by
    rw [withoutBlanks_operatorText, Text.without_append, withoutBlanks_append,
      withoutBlanks_keyword]
  constructor
  · intro hsame
    rw [hletters, hletters, hsame]
  · intro hsame
    rw [withoutBlanks_append, withoutBlanks_append, List.append_cancel_left_eq] at hsame
    rw [operatorText, operatorText, Text.without_append, Text.without_append, hsame]

/-! ### Declarators -/

/-- A bare operator, with template arguments behind it and scopes in front of it. -/
inductive NamesOperator (operator : SyntaxNode) : SyntaxNode → Prop where
  | bare (hkind : operator.kind = .operatorName) : NamesOperator operator operator
  | specialised {node name : SyntaxNode}
      (hkind : node.kind = .templateFunction)
      (hname : node.child? .name = some name)
      (hoperator : NamesOperator operator name) :
      NamesOperator operator node
  | underScope {node name : SyntaxNode}
      (hkind : node.kind ∈ qualifying)
      (hname : node.child? .name = some name)
      (hoperator : NamesOperator operator name) :
      NamesOperator operator node

/-- The declarator is that of a function named by the operator. -/
def EndsInOperator (declarator operator : SyntaxNode) : Prop :=
  ∃ name, InFunctionLayer declarator name ∧ NamesOperator operator name

variable {declarator operator name : SyntaxNode}

def operatorNameOf (source : ByteArray) (operator : SyntaxNode) : String :=
  String.ofList (operatorText (operator.chars source))

theorem NamesOperator.spelledName? (source : ByteArray) (hoperator : NamesOperator operator name) :
    ∃ declared, Declarator.spelledName? source name = some declared ∧
      declared.name = operatorNameOf source operator ∧ declared.form = .plain := by
  induction hoperator with
  | bare hkind =>
      refine ⟨.ofForm .plain (operatorNameOf source operator), ?_, rfl, rfl⟩
      rw [spelledName?_eq, hkind]
      rfl
  | specialised hkind hname _ ih =>
      obtain ⟨declared, hspelled, hsame⟩ := ih
      refine ⟨declared, ?_, hsame⟩
      rw [spelledName?_specialised hkind hname, hspelled]
  | @underScope node name hkind hname _ ih =>
      obtain ⟨declared, hspelled, hsame⟩ := ih
      refine ⟨declared.qualify ((node.child? .scope).map (qualifierOf source)), ?_, hsame⟩
      rw [spelledName?_qualifying hkind hname, hspelled, Option.map_some]

theorem EndsInOperator.functionName? (source : ByteArray)
    (hends : EndsInOperator declarator operator) :
    ∃ declared, Declarator.functionName? source declarator = some declared ∧
      declared.name = operatorNameOf source operator ∧ declared.form = .plain := by
  obtain ⟨name, hlayer, hoperator⟩ := hends
  obtain ⟨declared, hspelled, hsame⟩ := hoperator.spelledName? source
  exact ⟨declared, functionName?_of_inFunctionLayer hlayer hspelled, hsame⟩

end NamingCheck.Declarator
