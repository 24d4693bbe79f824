import NamingCheck.Proofs.Verdict.Report

/-!
# More exempt names

Of the rules only the first looks at the exempt names, and it asks no more than whether a name is
one of them. So further exemptions change the verdicts on just the names that were added, and
nothing about which callables are judged or in which order.
-/

universe u

namespace NamingCheck

/-- What becomes of a verdict when more names are exempt. -/
structure Verdict.Relaxes (fewer more : List String) (strict lenient : Verdict) : Prop where
  name_eq : lenient.name = strict.name
  kind_eq : lenient.kind = strict.kind
  line_eq : lenient.line = strict.line
  compliant_of_compliant : strict.compliant = true → lenient.compliant = true
  eq_of_not_added : ¬(strict.name ∈ more ∧ strict.name ∉ fewer) → lenient = strict
  exempt_of_added : strict.name ∈ more → strict.name ∉ fewer →
    lenient.rule = some .exemptName ∧ lenient.compliant = true

namespace Policy

theorem acceptingRule?_of_exempt (policy : Policy) {name : String}
    (hexempt : name ∈ policy.exemptNames) : policy.acceptingRule? name = some .exemptName := by
  rw [acceptingRule?_eq]
  exact if_pos hexempt

/-- Only whether the name itself is exempt matters. -/
theorem acceptingRule?_congr {policy other : Policy} {name : String}
    (hsame : name ∈ policy.exemptNames ↔ name ∈ other.exemptNames) :
    policy.acceptingRule? name = other.acceptingRule? name := by
  rw [acceptingRule?_eq, acceptingRule?_eq]
  exact if_congr hsame rfl rfl

variable {Node : Type u} [EntityTree Node]

theorem verdict_congr {policy other : Policy} {node : Node}
    (hsame : EntityTree.name node ∈ policy.exemptNames ↔
      EntityTree.name node ∈ other.exemptNames) :
    policy.verdict node = other.verdict node := by
  rw [verdict, verdict, acceptingRule?_congr hsame]

theorem verdicts_congr {policy other : Policy}
    (hsame : ∀ name, name ∈ policy.exemptNames ↔ name ∈ other.exemptNames) (root : Node) :
    policy.verdicts root = other.verdicts root :=
  List.map_congr_left fun node _ => verdict_congr (hsame (EntityTree.name node))

variable {fewer more : List String}

theorem relaxes_verdict (hsub : fewer ⊆ more) (node : Node) :
    Verdict.Relaxes fewer more (verdict ⟨fewer⟩ node) (verdict ⟨more⟩ node) where
  name_eq := rfl
  kind_eq := rfl
  line_eq := rfl
  compliant_of_compliant hcompliant := by
    by_cases hexempt : EntityTree.name node ∈ more
    · exact congrArg Option.isSome (acceptingRule?_of_exempt ⟨more⟩ hexempt)
    · have hsame : verdict ⟨more⟩ node = verdict ⟨fewer⟩ node :=
        verdict_congr (iff_of_false hexempt fun hfewer => hexempt (hsub hfewer))
      rwa [hsame]
  eq_of_not_added hadded := by
    refine verdict_congr ⟨fun hmore => ?_, fun hfewer => hsub hfewer⟩
    by_contra hfewer
    exact hadded ⟨hmore, hfewer⟩
  exempt_of_added hmore _ := by
    have hrule := acceptingRule?_of_exempt ⟨more⟩ hmore
    exact ⟨hrule, congrArg Option.isSome hrule⟩

theorem relaxes_verdicts (hsub : fewer ⊆ more) (root : Node) :
    List.Forall₂ (Verdict.Relaxes fewer more) (verdicts ⟨fewer⟩ root) (verdicts ⟨more⟩ root) := by
  rw [verdicts, verdicts, List.forall₂_map_left_iff, List.forall₂_map_right_iff, List.forall₂_same]
  exact fun node _ => relaxes_verdict hsub node

end Policy

namespace Report

/-- What becomes of a report when more names are exempt. The violations that are left are as they
were, in the order in which they were. -/
structure Relaxes (fewer more : List String) (strict lenient : Report) : Prop where
  file_eq : lenient.file = strict.file
  verdicts : List.Forall₂ (Verdict.Relaxes fewer more) strict.verdicts lenient.verdicts
  violations_sublist : lenient.violations.Sublist strict.violations
  fileCompliant_of_fileCompliant : strict.fileCompliant = true → lenient.fileCompliant = true

variable {fewer more : List String} {strict lenient : List Verdict}

/-- A verdict that changes is no violation any more, and one that stays is the same. -/
theorem filter_sublist_filter_of_relaxes
    (hrelaxes : List.Forall₂ (Verdict.Relaxes fewer more) strict lenient) :
    (lenient.filter fun verdict => !verdict.compliant).Sublist
      (strict.filter fun verdict => !verdict.compliant) := by
  induction hrelaxes with
  | nil => exact .slnil
  | @cons before after _ _ hverdict _ ih =>
      by_cases hadded : before.name ∈ more ∧ before.name ∉ fewer
      · have hcompliant := (hverdict.exempt_of_added hadded.1 hadded.2).2
        rw [List.filter_cons_of_neg (by simp [hcompliant]), List.filter_cons]
        split
        · exact ih.cons before
        · exact ih
      · obtain rfl := hverdict.eq_of_not_added hadded
        rw [List.filter_cons, List.filter_cons]
        split
        · exact ih.cons_cons after
        · exact ih

theorem all_compliant_of_relaxes
    (hrelaxes : List.Forall₂ (Verdict.Relaxes fewer more) strict lenient)
    (hcompliant : ∀ verdict ∈ strict, verdict.compliant = true) :
    ∀ verdict ∈ lenient, verdict.compliant = true := by
  induction hrelaxes with
  | nil => exact nofun
  | cons hverdict _ ih =>
      rw [List.forall_mem_cons] at hcompliant ⊢
      exact ⟨hverdict.compliant_of_compliant hcompliant.1, ih hcompliant.2⟩

theorem relaxes_extend_empty (file : String)
    (hrelaxes : List.Forall₂ (Verdict.Relaxes fewer more) strict lenient) :
    Relaxes fewer more ((empty file).extend strict) ((empty file).extend lenient) where
  file_eq := rfl
  verdicts := hrelaxes
  violations_sublist := filter_sublist_filter_of_relaxes hrelaxes
  fileCompliant_of_fileCompliant := by
    rw [fileCompliant_extend_empty_iff, fileCompliant_extend_empty_iff]
    exact all_compliant_of_relaxes hrelaxes

end Report

end NamingCheck
