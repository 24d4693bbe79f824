import NamingCheck.Event
import NamingCheck.Glob.Set
import NamingCheck.Json.Parser
import NamingCheck.Verdict.Policy
import NamingCheck.Output.Coloring

/-!
The settings of a project, kept in a JSON file.

Every setting may be left out and then has its default. A file that holds anything but settings is
as good as none: no part of it takes effect.
-/

namespace NamingCheck

structure Settings where
  version : String := "0.1.0"
  exemptNames : List String := Policy.iteratorNames
  color : ColorMode := .auto
  fatalErrors : Bool := false
  ignorePatterns : List String := []
  deriving DecidableEq, Repr

namespace Settings

def standard : Settings := {}

def policy (settings : Settings) : Policy := ⟨settings.exemptNames⟩

def exclusions (settings : Settings) : Except PatternError PatternSet :=
  PatternSet.compile settings.ignorePatterns

/-- Reads a record with a single field that may be left out. -/
def onlyField? {α : Type} (name : String) (decode? : Json → Option α) (default : α)
    (json : Json) : Option α :=
  (json.record? [name]).bind fun record => record.getD? name decode? default

def ofJson? (json : Json) : Option Settings := do
  let record ← json.record? ["version", "naming", "output", "parse", "ignore_patterns"]
  return {
    version := ← record.getD? "version" Json.text? standard.version
    exemptNames := ← record.getD? "naming"
      (onlyField? "exempt_names" (Json.listOf? Json.text?) standard.exemptNames)
      standard.exemptNames
    color := ← record.getD? "output"
      (onlyField? "color" (Json.choice? ColorMode.ofName?) standard.color) standard.color
    fatalErrors := ← record.getD? "parse"
      (onlyField? "fatal_errors" Json.bool? standard.fatalErrors) standard.fatalErrors
    ignorePatterns := ← record.getD? "ignore_patterns" (Json.listOf? Json.text?)
      standard.ignorePatterns }

def toJson (settings : Settings) : Json :=
  Json.ofMembers
    [("version", Json.ofText settings.version),
      ("naming", Json.ofMembers
        [("exempt_names", Json.array (settings.exemptNames.map Json.ofText))]),
      ("output", Json.ofMembers [("color", Json.ofText settings.color.name)]),
      ("parse", Json.ofMembers [("fatal_errors", Json.bool settings.fatalErrors)]),
      ("ignore_patterns", Json.array (settings.ignorePatterns.map Json.ofText))]

def ofText? (text : String) : Option Settings := (Json.parse? text).bind ofJson?

/-- The settings in force, given the bytes of the file if it can be read. Bytes that are no text
count as no file; a text without settings is worth a warning. -/
def load (bytes : Option ByteArray) : Settings × List Event :=
  match bytes.bind String.fromUTF8? with
  | none => (standard, [])
  | some text =>
      match ofText? text with
      | none => (standard, [.settingsRejected])
      | some settings => (settings, [])

end Settings

end NamingCheck
