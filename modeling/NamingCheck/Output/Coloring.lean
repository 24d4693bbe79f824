/-!
Colours for the status tags.
-/

namespace NamingCheck

inductive ColorMode where
  | auto
  | always
  | never
  deriving DecidableEq, Repr, Inhabited

namespace ColorMode

def all : List ColorMode := [.auto, .always, .never]

def name : ColorMode → String
  | auto => "auto"
  | always => "always"
  | never => "never"

def ofName? (text : String) : Option ColorMode :=
  all.find? fun choice => choice.name == text

end ColorMode

/-- The texts written before a tag, by status, and after it. -/
structure Palette where
  ok : String
  err : String
  reset : String
  deriving DecidableEq, Repr, Inhabited

namespace Palette

def ansi : Palette := ⟨"\x1b[32m", "\x1b[31m", "\x1b[0m"⟩

def plain : Palette := ⟨"", "", ""⟩

def select (choice : ColorMode) (isTerminal : Bool) : Palette :=
  match choice with
  | .always => ansi
  | .never => plain
  | .auto => if isTerminal then ansi else plain

def mark (palette : Palette) (compliant : Bool) : String :=
  if compliant then palette.ok else palette.err

end Palette

end NamingCheck
