import NamingCheck.Verdict.Policy

/-!
The report on one file, gathered verdict by verdict while an observer looks on.
-/

universe u v

namespace NamingCheck

structure Report where
  file : String
  verdicts : List Verdict
  fileCompliant : Bool
  deriving DecidableEq, Repr, Inhabited

namespace Report

/-- A file without callables is compliant. -/
def empty (file : String) : Report where
  file := file
  verdicts := []
  fileCompliant := true

def add (report : Report) (verdict : Verdict) : Report :=
  { report with
    verdicts := report.verdicts ++ [verdict]
    fileCompliant := report.fileCompliant && verdict.compliant }

def violations (report : Report) : List Verdict :=
  report.verdicts.filter fun verdict => !verdict.compliant

/-- The observer sees each verdict before it is stored. -/
def collect {m : Type → Type v} [Monad m] (file : String) (verdicts : List Verdict)
    (observe : Verdict → m Unit) : m Report :=
  verdicts.foldlM
    (fun report verdict => do
      observe verdict
      return report.add verdict)
    (empty file)

end Report

namespace Policy

variable {Node : Type u} [EntityTree Node]

def check {m : Type → Type v} [Monad m] (policy : Policy) (file : String) (root : Node)
    (observe : Verdict → m Unit) : m Report :=
  Report.collect file (policy.verdicts root) observe

end Policy

end NamingCheck
