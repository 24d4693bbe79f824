import NamingCheck.Verdict.OfFile

/-!
The summary of a run over any number of files.
-/

namespace NamingCheck

/-- A file about which nothing can be reported, and why. -/
structure Failure where
  file : String
  error : String
  deriving DecidableEq, Repr, Inhabited

structure Summary where
  version : String
  command : String
  reports : List Report
  failures : List Failure
  filesChecked : Nat
  entitiesChecked : Nat
  violations : Nat
  /-- Speaks of the reports only; failures are counted apart. -/
  compliant : Bool
  deriving DecidableEq, Repr, Inhabited

namespace Summary

def programVersion : String := "0.1.0"

def ofResults (reports : List Report) (failures : List Failure) : Summary where
  version := programVersion
  command := "check"
  reports := reports
  failures := failures
  filesChecked := reports.length
  entitiesChecked := total (fun report => report.verdicts.length) reports
  violations := total (fun report => report.violations.length) reports
  compliant := reports.all (·.fileCompliant)

def nonCompliantFiles (summary : Summary) : Nat :=
  (summary.reports.filter fun report => !report.fileCompliant).length

end Summary

end NamingCheck
