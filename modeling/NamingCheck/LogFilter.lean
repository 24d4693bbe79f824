import NamingCheck.LogFilter.Directive

/-!
Which events reach the log.

A filter is a list of directives between commas. Of the directives that apply to an event, the one
with the longest target decides; of those with the same target one that asks for a field; and of
equals the last.
-/

namespace NamingCheck

structure LogFilter where
  directives : List LogDirective
  deriving DecidableEq, Repr

namespace LogFilter

def upTo (level : Level) : LogFilter := ⟨[{ upTo := some level }]⟩

/-- Without any directive only errors pass. -/
def ofText? (text : String) : Option LogFilter :=
  match ((Text.splitAt ',' text.toList).filter (· != [])).map String.ofList with
  | [] => some (upTo .error)
  | parts => (parts.mapM LogDirective.ofText?).map LogFilter.mk

/-- The filter that the environment asks for; failing that, the usual one. -/
def choose (requested : Option String) (verbose : Bool) : LogFilter :=
  (requested.bind ofText?).getD (upTo (if verbose then .debug else .warn))

/-- The better of the directive that was found so far and another one. -/
def prefer (event : Event) (found : Option LogDirective) (directive : LogDirective) :
    Option LogDirective :=
  if !directive.appliesTo event then found
  else if found.all (·.yieldsTo directive) then some directive
  else found

def lets (filter : LogFilter) (event : Event) : Bool :=
  (filter.directives.foldl (prefer event) none).any (·.lets event)

end LogFilter

end NamingCheck
