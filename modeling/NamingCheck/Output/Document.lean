import NamingCheck.Json.Parser
import NamingCheck.Json.Printer
import NamingCheck.Verdict.OfRun

/-!
The JSON document of a run, written from a summary and read back into one.
-/

namespace NamingCheck

namespace Entity.Kind

def toJson (kind : Entity.Kind) : Json := Json.ofText kind.name

def ofJson? (json : Json) : Option Entity.Kind := json.choice? ofName?

end Entity.Kind

namespace Rule

def toJson (rule : Rule) : Json := Json.ofText rule.name

def ofJson? (json : Json) : Option Rule := json.choice? ofName?

end Rule

namespace Verdict

/-- A verdict without a rule has no member for it. -/
def toJson (verdict : Verdict) : Json :=
  Json.ofMembers <|
    [("name", Json.ofText verdict.name),
      ("kind", verdict.kind.toJson),
      ("line", Json.ofNat verdict.line.toNat),
      ("compliant", Json.bool verdict.compliant)]
    ++ (verdict.rule.map fun rule => ("rule", rule.toJson)).toList

def optionalRule? (json : Json) : Option (Option Rule) :=
  if json.isNull then some none else (Rule.ofJson? json).map some

def line? (json : Json) : Option UInt32 :=
  (json.natBelow? UInt32.size).map UInt32.ofNat

def ofJson? (json : Json) : Option Verdict := do
  let record ← json.fullRecord? ["name", "kind", "line", "compliant", "rule"]
  return {
    name := ← record.get? "name" Json.text?
    kind := ← record.get? "kind" Entity.Kind.ofJson?
    line := ← record.get? "line" line?
    compliant := ← record.get? "compliant" Json.bool?
    rule := ← record.getD? "rule" optionalRule? none }

end Verdict

namespace Report

def toJson (report : Report) : Json :=
  Json.ofMembers
    [("file", Json.ofText report.file),
      ("verdicts", Json.array (report.verdicts.map Verdict.toJson)),
      ("file_compliant", Json.bool report.fileCompliant)]

def ofJson? (json : Json) : Option Report := do
  let record ← json.fullRecord? ["file", "verdicts", "file_compliant"]
  return {
    file := ← record.get? "file" Json.text?
    verdicts := ← record.get? "verdicts" (Json.listOf? Verdict.ofJson?)
    fileCompliant := ← record.get? "file_compliant" Json.bool? }

end Report

namespace Failure

def toJson (failure : Failure) : Json :=
  Json.ofMembers
    [("file", Json.ofText failure.file), ("error", Json.ofText failure.error)]

def ofJson? (json : Json) : Option Failure := do
  let record ← json.fullRecord? ["file", "error"]
  return {
    file := ← record.get? "file" Json.text?
    error := ← record.get? "error" Json.text? }

end Failure

namespace Summary

def countBound : Nat := UInt64.size

def toJson (summary : Summary) : Json :=
  Json.ofMembers
    [("version", Json.ofText summary.version),
      ("command", Json.ofText summary.command),
      ("reports", Json.array (summary.reports.map Report.toJson)),
      ("failures", Json.array (summary.failures.map Failure.toJson)),
      ("files_checked", Json.ofNat summary.filesChecked),
      ("entities_checked", Json.ofNat summary.entitiesChecked),
      ("violations", Json.ofNat summary.violations),
      ("compliant", Json.bool summary.compliant)]

def ofJson? (json : Json) : Option Summary := do
  let record ← json.fullRecord?
    ["version", "command", "reports", "failures", "files_checked", "entities_checked",
      "violations", "compliant"]
  return {
    version := ← record.get? "version" Json.text?
    command := ← record.get? "command" Json.text?
    reports := ← record.get? "reports" (Json.listOf? Report.ofJson?)
    failures := ← record.get? "failures" (Json.listOf? Failure.ofJson?)
    filesChecked := ← record.get? "files_checked" (Json.natBelow? countBound)
    entitiesChecked := ← record.get? "entities_checked" (Json.natBelow? countBound)
    violations := ← record.get? "violations" (Json.natBelow? countBound)
    compliant := ← record.get? "compliant" Json.bool? }

def document (summary : Summary) : String := summary.toJson.pretty

def ofDocument? (text : String) : Option Summary := (Json.parse? text).bind ofJson?

end Summary

end NamingCheck
