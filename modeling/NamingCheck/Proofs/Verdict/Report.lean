import Mathlib.Data.List.Forall2
import NamingCheck.Proofs.Entity.Preorder
import NamingCheck.Proofs.Verdict.Rules
import NamingCheck.Verdict.OfFile

/-!
# The report on an entity tree

Gathering verdicts one by one amounts to showing each to the observer and then handing over all of
them. With the walk described by `OrderedTree.preorder` and each name by `Policy.Satisfies`, this
says what a check reports without reference to how it goes about it.
-/

universe u v

namespace NamingCheck

namespace Report

variable {m : Type → Type v} [Monad m] [LawfulMonad m]

/-- The report that has taken in further verdicts. -/
def extend (report : Report) (verdicts : List Verdict) : Report where
  file := report.file
  verdicts := report.verdicts ++ verdicts
  fileCompliant := report.fileCompliant && verdicts.all (·.compliant)

theorem extend_nil (report : Report) : report.extend [] = report := by
  simp [extend]

theorem add_extend (report : Report) (verdict : Verdict) (verdicts : List Verdict) :
    (report.add verdict).extend verdicts = report.extend (verdict :: verdicts) := by
  simp [extend, add, Bool.and_assoc]

theorem foldlM_add_eq (observe : Verdict → m Unit) (verdicts : List Verdict) (report : Report) :
    verdicts.foldlM (fun report verdict => do observe verdict; return report.add verdict) report =
      (do verdicts.forM observe; return report.extend verdicts) := by
  induction verdicts generalizing report with
  | nil => simp [extend_nil]
  | cons verdict rest ih =>
      simp only [List.forM_eq_forM] at ih ⊢
      simp only [List.foldlM_cons, List.forM_cons, bind_assoc, pure_bind]
      apply congrArg (observe verdict >>= ·)
      funext _
      rw [ih, add_extend]

theorem collect_eq (file : String) (verdicts : List Verdict) (observe : Verdict → m Unit) :
    collect file verdicts observe =
      (do verdicts.forM observe; return (empty file).extend verdicts) :=
  foldlM_add_eq observe verdicts (empty file)

/-- The flag says of the verdicts what there is to say. -/
def FlagsVerdicts (report : Report) : Prop :=
  report.fileCompliant = true ↔ ∀ verdict ∈ report.verdicts, verdict.compliant = true

theorem flagsVerdicts_empty (file : String) : (empty file).FlagsVerdicts := by
  simp [FlagsVerdicts, empty]

theorem FlagsVerdicts.add {report : Report} (hflags : report.FlagsVerdicts) (verdict : Verdict) :
    (report.add verdict).FlagsVerdicts := by
  rw [FlagsVerdicts] at hflags
  simp only [FlagsVerdicts, Report.add, Bool.and_eq_true, List.forall_mem_append,
    List.forall_mem_singleton, hflags]

theorem FlagsVerdicts.extend {report : Report} (hflags : report.FlagsVerdicts)
    (verdicts : List Verdict) : (report.extend verdicts).FlagsVerdicts := by
  induction verdicts generalizing report with
  | nil =>
      rw [extend_nil]
      exact hflags
  | cons verdict rest ih =>
      rw [← add_extend]
      exact ih (hflags.add verdict)

theorem fileCompliant_extend_empty_iff (file : String) (verdicts : List Verdict) :
    ((empty file).extend verdicts).fileCompliant = true ↔
      ∀ verdict ∈ verdicts, verdict.compliant = true :=
  (flagsVerdicts_empty file).extend verdicts

end Report

namespace Policy

open EntityTree (OwesVerdict)
open OrderedTree (preorder)

variable {Node : Type u} [EntityTree Node]

/-- What a verdict has to say about a node. -/
structure Judges (policy : Policy) (node : Node) (verdict : Verdict) : Prop where
  name_eq : verdict.name = EntityTree.name node
  kind_eq : verdict.kind = EntityTree.kind node
  line_eq : verdict.line = EntityTree.line node
  compliant_iff : verdict.compliant = true ↔ verdict.rule ≠ none
  refused_iff : verdict.rule = none ↔
    BeginsLowerCase (EntityTree.name node) ∧ ¬BeginsWithOperator (EntityTree.name node) ∧
      EntityTree.name node ∉ policy.exemptNames
  rule_eq_iff : ∀ rule, verdict.rule = some rule ↔
    policy.Satisfies (EntityTree.name node) rule ∧
      ∀ earlier : Rule, earlier.priority < rule.priority →
        ¬policy.Satisfies (EntityTree.name node) earlier

theorem judges_verdict (policy : Policy) {node : Node} (howes : OwesVerdict node) :
    policy.Judges node (policy.verdict node) where
  name_eq := rfl
  kind_eq := rfl
  line_eq := rfl
  compliant_iff := Option.isSome_iff_ne_none
  refused_iff :=
    (policy.acceptingRule?_eq_none_iff _).trans (policy.not_accepts_iff howes.2.2.2.2)
  rule_eq_iff := policy.acceptingRule?_eq_some_iff _

theorem forall₂_judges_verdicts (policy : Policy) (root : Node) :
    List.Forall₂ policy.Judges ((preorder root).filter fun node => decide (OwesVerdict node))
      (policy.verdicts root) := by
  rw [← EntityTree.judged_eq, verdicts, List.forall₂_map_right_iff, List.forall₂_same]
  intro node hnode
  exact policy.judges_verdict (EntityTree.mem_judged_iff.1 hnode).2

theorem check_eq {m : Type → Type v} [Monad m] [LawfulMonad m] (policy : Policy) (file : String)
    (root : Node) (observe : Verdict → m Unit) :
    policy.check file root observe =
      (do (policy.verdicts root).forM observe
          return (Report.empty file).extend (policy.verdicts root)) :=
  Report.collect_eq file (policy.verdicts root) observe

/-- A check reports one verdict on each node that owes one, in pre-order, and has shown the observer
just these verdicts in just this order. -/
theorem exists_report_of_preorder (policy : Policy) (file : String) (root : Node) :
    ∃ report : Report,
      report.file = file ∧
      List.Forall₂ policy.Judges ((preorder root).filter fun node => decide (OwesVerdict node))
        report.verdicts ∧
      (report.fileCompliant = true ↔ ∀ verdict ∈ report.verdicts, verdict.compliant = true) ∧
      ∀ (m : Type → Type v) [Monad m] [LawfulMonad m] (observe : Verdict → m Unit),
        policy.check file root observe =
          (do report.verdicts.forM observe; return report) := by
  refine ⟨(Report.empty file).extend (policy.verdicts root), rfl, ?_, ?_, ?_⟩
  · exact policy.forall₂_judges_verdicts root
  · exact Report.fileCompliant_extend_empty_iff file (policy.verdicts root)
  · intro m _ _ observe
    exact policy.check_eq file root observe

/-- One function with a lower-case name, and an observer that keeps the names it is shown. -/
theorem exists_report_of_preorder_lowerCase :
    ∃ report : Report, report.fileCompliant = false ∧
      (standard.check "a.cpp" (Entity.ofFile "a.cpp" [Entity.ofKind .function "draw"])
        fun verdict => (modify (· ++ [verdict.name]) : StateM (List String) Unit)).run [] =
          (report, ["draw"]) := by
  obtain ⟨report, -, hverdicts, hcompliant, hcheck⟩ :=
    standard.exists_report_of_preorder "a.cpp"
      (Entity.ofFile "a.cpp" [Entity.ofKind .function "draw"])
  have howes :
      ((preorder (Entity.ofFile "a.cpp" [Entity.ofKind .function "draw"])).filter
        fun node => decide (OwesVerdict node)) = [Entity.ofKind .function "draw"] := by
    rw [OrderedTree.preorder_eq]
    change List.filter _ (_ :: [Entity.ofKind .function "draw"].flatMap preorder) = _
    rw [List.flatMap_singleton, OrderedTree.preorder_eq]
    rfl
  rw [howes, List.forall₂_cons_left_iff] at hverdicts
  obtain ⟨verdict, rest, hjudges, hrest, hreport⟩ := hverdicts
  rw [List.forall₂_nil_left_iff] at hrest
  subst hrest
  have hrefused : verdict.rule = none := hjudges.refused_iff.2 (by
    refine ⟨⟨'d', rfl, by decide, by decide⟩, ?_, by decide⟩
    exact fun hoperator => absurd ((isOperatorName_iff "draw").2 hoperator) (by decide))
  refine ⟨report, ?_, ?_⟩
  · rw [Bool.eq_false_iff, Ne, hcompliant, hreport]
    intro hall
    exact hjudges.compliant_iff.1 (hall verdict (List.mem_singleton_self verdict)) hrefused
  · rw [hcheck, hreport]
    simp only [List.forM_eq_forM, List.forM_cons, List.forM_nil]
    rw [show verdict.name = "draw" from hjudges.name_eq]
    rfl

end Policy

end NamingCheck
