import NamingCheck.Entity.Traversal

/-!
The naming policy: a callable's name begins with a capital, unless it is exempt or an operator.
-/

universe u

namespace NamingCheck

/-- The reason for which a name is accepted. -/
inductive Rule where
  | exemptName
  | operatorOverload
  | leadingCapital
  deriving DecidableEq, Repr, Inhabited

namespace Rule

def all : List Rule := [.exemptName, .operatorOverload, .leadingCapital]

def name : Rule → String
  | exemptName => "exempt_name"
  | operatorOverload => "operator_overload"
  | leadingCapital => "leading_capital"

def ofName? (text : String) : Option Rule :=
  all.find? fun rule => rule.name == text

end Rule

structure Policy where
  exemptNames : List String
  deriving DecidableEq, Repr, Inhabited

namespace Policy

/-- The names by which a range-based loop finds its iterators; they cannot be chosen freely. -/
def iteratorNames : List String := ["begin", "end", "cbegin", "cend"]

def standard : Policy := ⟨iteratorNames⟩

def isOperatorName (name : String) : Bool :=
  "operator".toList.isPrefixOf name.toList

/-- Only an ASCII lower-case letter is refused at the front, so `_helper` and any name in another
script pass. The empty name has no first character and does not. -/
def beginsWithCapital (name : String) : Bool :=
  match name.toList with
  | [] => false
  | first :: _ => !('a' ≤ first && first ≤ 'z')

/-- The first rule, in this order, that the name satisfies. -/
def acceptingRule? (policy : Policy) (name : String) : Option Rule :=
  if policy.exemptNames.contains name then some .exemptName
  else if isOperatorName name then some .operatorOverload
  else if beginsWithCapital name then some .leadingCapital
  else none

end Policy

/-- What the policy finds for one callable. -/
structure Verdict where
  name : String
  kind : Entity.Kind
  line : UInt32
  compliant : Bool
  rule : Option Rule
  deriving DecidableEq, Repr, Inhabited

namespace Policy

open EntityTree (judged)

variable {Node : Type u} [EntityTree Node]

def verdict (policy : Policy) (node : Node) : Verdict :=
  let rule := policy.acceptingRule? (EntityTree.name node)
  { name := EntityTree.name node
    kind := EntityTree.kind node
    line := EntityTree.line node
    compliant := rule.isSome
    rule := rule }

def verdicts (policy : Policy) (root : Node) : List Verdict :=
  (judged root).map policy.verdict

end Policy

end NamingCheck
