import NamingCheck.Output.Document
import NamingCheck.Output.Coloring

/-!
How results are shown: as a trace for people, line by line, or as one document at the end.
-/

namespace NamingCheck

/-- The texts of a run. All but the summary are written while files are being checked. -/
structure Formatter where
  header : String → String
  verdict : Verdict → String
  footer : Report → String
  failure : Failure → String
  summary : Summary → String

namespace Formatter

/-- Pads with blanks on the right up to six characters. -/
def padTag (tag : String) : String :=
  tag ++ String.ofList (List.replicate (6 - tag.length) ' ')

def statusTag (compliant : Bool) : String :=
  padTag (if compliant then "[OK]" else "[ERR]")

def traceLine (palette : Palette) (verdict : Verdict) : String :=
  " - " ++ palette.mark verdict.compliant ++ statusTag verdict.compliant ++ palette.reset
    ++ verdict.name ++ "\n"

def footerMessage (compliant : Bool) : String :=
  if compliant then "Good job, file is compliant!" else "Oh-oh! file is NOT compliant!"

def failedFiles (failures : List Failure) : String :=
  if failures.isEmpty then ""
  else ", " ++ toString failures.length ++ " file(s) failed to parse"

def summaryLine (summary : Summary) : String :=
  "\n" ++ toString summary.filesChecked ++ " file(s) checked, "
    ++ toString summary.entitiesChecked ++ " callable(s), "
    ++ toString summary.violations ++ " violation(s) in "
    ++ toString summary.nonCompliantFiles ++ " file(s)"
    ++ failedFiles summary.failures ++ "\n"

def human (palette : Palette) : Formatter where
  header file := "Checking functions and methods inside '" ++ file ++ "':\n"
  verdict := traceLine palette
  footer report :=
    palette.mark report.fileCompliant ++ footerMessage report.fileCompliant ++ palette.reset
      ++ "\n"
  failure failure := "error: " ++ failure.error ++ "\n"
  summary := summaryLine

def json : Formatter where
  header _ := ""
  verdict _ := ""
  footer _ := ""
  failure _ := ""
  summary := Summary.document

end Formatter

end NamingCheck
