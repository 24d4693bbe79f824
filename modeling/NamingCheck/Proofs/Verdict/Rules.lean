import Mathlib.Tactic.Common
import NamingCheck.Verdict.Policy

/-!
# The rule that decides a name

Each rule asks something of a name by itself. The policy names the first rule, in order of
priority, that is satisfied, and refuses a name that satisfies none.
-/

namespace NamingCheck

def Rule.priority : Rule → Nat
  | exemptName => 0
  | operatorOverload => 1
  | leadingCapital => 2

def BeginsLowerCase (name : String) : Prop :=
  ∃ first, name.toList.head? = some first ∧ 'a' ≤ first ∧ first ≤ 'z'

def BeginsWithOperator (name : String) : Prop :=
  ∃ rest, name = "operator" ++ rest

namespace Policy

def Satisfies (policy : Policy) (name : String) : Rule → Prop
  | .exemptName => name ∈ policy.exemptNames
  | .operatorOverload => BeginsWithOperator name
  | .leadingCapital => name ≠ "" ∧ ¬BeginsLowerCase name

/-- A name is accepted for some rule. -/
def Accepts (policy : Policy) (name : String) : Prop :=
  ∃ rule, policy.Satisfies name rule

theorem isOperatorName_iff (name : String) :
    isOperatorName name = true ↔ BeginsWithOperator name := by
  rw [isOperatorName, List.isPrefixOf_iff_prefix, BeginsWithOperator]
  constructor
  · rintro ⟨rest, hrest⟩
    refine ⟨String.ofList rest, String.toList_inj.1 ?_⟩
    simp [← hrest]
  · rintro ⟨rest, rfl⟩
    rw [String.toList_append]
    exact List.prefix_append _ _

theorem beginsWithCapital_iff (name : String) :
    beginsWithCapital name = true ↔ name ≠ "" ∧ ¬BeginsLowerCase name := by
  rw [Ne, ← String.toList_eq_nil_iff, beginsWithCapital, BeginsLowerCase]
  cases name.toList with
  | nil => simp
  | cons first rest => simp [← Bool.not_eq_true, imp_iff_not_or]

instance (policy : Policy) (name : String) : (rule : Rule) → Decidable (policy.Satisfies name rule)
  | .exemptName => inferInstanceAs (Decidable (name ∈ policy.exemptNames))
  | .operatorOverload => decidable_of_iff _ (isOperatorName_iff name)
  | .leadingCapital => decidable_of_iff _ (beginsWithCapital_iff name)

/-- The choice among the rules, with the test for each replaced by what the rule asks. -/
theorem acceptingRule?_eq (policy : Policy) (name : String) :
    policy.acceptingRule? name =
      if policy.Satisfies name .exemptName then some .exemptName
      else if policy.Satisfies name .operatorOverload then some .operatorOverload
      else if policy.Satisfies name .leadingCapital then some .leadingCapital
      else none :=
  if_congr List.contains_iff_mem rfl <|
    if_congr (isOperatorName_iff name) rfl <|
      if_congr (beginsWithCapital_iff name) rfl rfl

theorem acceptingRule?_eq_some_iff (policy : Policy) (name : String) (rule : Rule) :
    policy.acceptingRule? name = some rule ↔
      policy.Satisfies name rule ∧
        ∀ earlier : Rule, earlier.priority < rule.priority → ¬policy.Satisfies name earlier := by
  have hearlier (bound : Nat) :
      (∀ earlier : Rule, earlier.priority < bound → ¬policy.Satisfies name earlier) ↔
        (0 < bound → ¬policy.Satisfies name .exemptName) ∧
          (1 < bound → ¬policy.Satisfies name .operatorOverload) ∧
            (2 < bound → ¬policy.Satisfies name .leadingCapital) := by
    constructor
    · intro hall
      exact ⟨hall .exemptName, hall .operatorOverload, hall .leadingCapital⟩
    · rintro ⟨hexempt, hoperator, hcapital⟩ earlier
      cases earlier with
      | exemptName => exact hexempt
      | operatorOverload => exact hoperator
      | leadingCapital => exact hcapital
  rw [hearlier, acceptingRule?_eq]
  split_ifs <;> cases rule <;> simp_all [Rule.priority]

theorem acceptingRule?_eq_none_iff (policy : Policy) (name : String) :
    policy.acceptingRule? name = none ↔ ¬policy.Accepts name := by
  have haccepts : policy.Accepts name ↔
      policy.Satisfies name .exemptName ∨ policy.Satisfies name .operatorOverload ∨
        policy.Satisfies name .leadingCapital := by
    constructor
    · rintro ⟨rule, hrule⟩
      cases rule with
      | exemptName => exact Or.inl hrule
      | operatorOverload => exact Or.inr (Or.inl hrule)
      | leadingCapital => exact Or.inr (Or.inr hrule)
    · rintro (hrule | hrule | hrule)
      · exact ⟨_, hrule⟩
      · exact ⟨_, hrule⟩
      · exact ⟨_, hrule⟩
  rw [haccepts, acceptingRule?_eq]
  split_ifs <;> simp_all

/-- A name that can be judged is refused for its lower-case beginning alone, and only if nothing
excuses it. -/
theorem not_accepts_iff (policy : Policy) {name : String} (hname : name ≠ "") :
    ¬policy.Accepts name ↔
      BeginsLowerCase name ∧ ¬BeginsWithOperator name ∧ name ∉ policy.exemptNames := by
  constructor
  · intro hrefused
    have hnot (rule : Rule) : ¬policy.Satisfies name rule := fun hrule => hrefused ⟨rule, hrule⟩
    refine ⟨?_, hnot .operatorOverload, hnot .exemptName⟩
    by_contra hlower
    exact hnot .leadingCapital ⟨hname, hlower⟩
  · rintro ⟨hlower, hoperator, hexempt⟩ ⟨rule, hrule⟩
    cases rule with
    | exemptName => exact hexempt hrule
    | operatorOverload => exact hoperator hrule
    | leadingCapital => exact hrule.2 hlower

end Policy

end NamingCheck
