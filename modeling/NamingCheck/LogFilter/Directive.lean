import NamingCheck.Event
import NamingCheck.LogFilter.ValuePattern
import NamingCheck.Text.Alphanumeric
import NamingCheck.Text.Blank
import NamingCheck.Text.Digits
import NamingCheck.Text.Parts

/-!
The directives of a log filter, such as `debug`, `crest_core=warn` or `[{file}]=info`.

A directive is a target, a bracket and a level, each of which may be missing. The bracket names a
field in braces, perhaps with a value, and before it a span. Spans are no events, so a directive
that asks for a span or for a value chooses no event.
-/

namespace NamingCheck

structure LogDirective where
  /-- A beginning of the origin of the events it is about; every event without one. -/
  target : Option String := none
  /-- A field that the events it is about tell. -/
  field : Option String := none
  isAboutEvents : Bool := true
  /-- The most detailed level it lets pass. -/
  upTo : Option Level := some .trace
  deriving DecidableEq, Repr

namespace LogDirective

def appliesTo (directive : LogDirective) (event : Event) : Bool :=
  directive.isAboutEvents
    && directive.target.all (fun target => target.toList.isPrefixOf event.origin.toList)
    && directive.field.all event.fields.contains

def lets (directive : LogDirective) (event : Event) : Bool :=
  directive.upTo.any fun level => event.level.rank ≤ level.rank

/-- How much of an origin is named; without a target less than any. -/
def reach (directive : LogDirective) : Nat :=
  (directive.target.map fun target => target.utf8ByteSize + 1).getD 0

/-- Whether another directive says as much or more about the events that it is about. -/
def yieldsTo (directive other : LogDirective) : Bool :=
  directive.reach < other.reach
    || (directive.reach == other.reach && directive.field.getD "" ≤ other.field.getD "")

/-! ### Levels -/

def thresholdOfNumber? : Nat → Option (Option Level)
  | 0 => some none
  | 1 => some (some .error)
  | 2 => some (some .warn)
  | 3 => some (some .info)
  | 4 => some (some .debug)
  | 5 => some (some .trace)
  | _ => none

def thresholds : List (String × Option Level) :=
  [("off", none), ("error", some .error), ("warn", some .warn), ("info", some .info),
    ("debug", some .debug), ("trace", some .trace)]

/-- A decimal number, which a plus sign may begin. -/
def number? (text : List Char) : Option Nat :=
  let digits := Text.without ['+'] text
  if Text.isDigits digits then
    some (digits.foldl (fun value c => value * 10 + (c.toNat - '0'.toNat)) 0)
  else none

/-- The levels by number, or by name in any case of letters. -/
def threshold? (text : String) : Option (Option Level) :=
  ((number? text.toList).bind thresholdOfNumber?).or <|
    (thresholds.find? fun entry =>
      entry.1 == String.ofList (text.toList.map Char.toLower)).map Prod.snd

/-! ### Reading

The parts of a directive are found in its text without the blanks around it, but are then cut out
of the text as it stands. Blanks in front therefore shift all parts, and blanks at the end belong to
the last one. -/

/-- The bytes of a text between two positions, unless that cuts through a character. -/
def cut? (text : String) (start stop : Nat) : Option String :=
  String.fromUTF8? (text.toUTF8.extract start stop)

/-- The position of the first mark of some kind, the mark itself and what is behind it. -/
def seek? (isMark : Char → Bool) (position : Nat) : List Char → Option (Nat × Char × List Char)
  | [] => none
  | c :: rest =>
      if isMark c then some (position, c, rest) else seek? isMark (position + c.utf8Size) rest

def mayStart (c : Char) : Bool :=
  c == '-' || c == ':' || c == '_' || Text.isAlphanumeric c

/-- The level from a position on, which may be missing there. -/
def withLevel? (text : String) (start : Nat) (directive : LogDirective) : Option LogDirective := do
  let level ← cut? text start text.utf8ByteSize
  if level == "" then return directive
  else return { directive with upTo := ← threshold? level }

/-- What follows a bracket: a level, or nothing. -/
def behindBracket? (text : String) (position : Nat) (directive : LogDirective) :
    List Char → Option LogDirective
  | [] => some directive
  | '=' :: _ => directive.withLevel? text (position + 1)
  | _ => none

/-- The name of a field, and whether a value stands behind it. -/
def field? (text : String) : Option (String × Bool) :=
  match Text.splitAt '=' text.toList with
  | [[]] => none
  | [name] => some (String.ofList name, false)
  | name :: value :: _ =>
      if ValuePattern.isWellFormed value then some (String.ofList name, true) else none
  | [] => none

def inBracket? (text : String) (target : Option String) (start : Nat) (rest : List Char) :
    Option LogDirective := do
  let (stop, mark, rest) ← seek? (fun c => c == ']' || c == '\x7b') start rest
  let span ← cut? text start stop
  if mark == ']' then
    behindBracket? text (stop + 1) { target, isAboutEvents := false } rest
  else
    let (close, _, rest) ← seek? (· == '\x7d') (stop + 1) rest
    let (name, hasValue) ← field? (← cut? text (stop + 1) close)
    match rest with
    | ']' :: rest =>
        behindBracket? text (close + 2)
          { target, field := some name, isAboutEvents := span == "" && !hasValue } rest
    | _ => none

/-- A word that is no level is a target. -/
def ofWord (text : String) : LogDirective :=
  match threshold? text with
  | some upTo => { upTo }
  | none => { target := some text }

def ofText? (text : String) : Option LogDirective :=
  match Text.trim text.toList with
  | [] => none
  | '[' :: rest => inBracket? text none 1 rest
  | first :: rest =>
      if !mayStart first then none
      else
        match seek? (fun c => c == '=' || c == '[') first.utf8Size rest with
        | none => some (ofWord text)
        | some (stop, mark, rest) => do
            let target ← cut? text 0 stop
            if mark == '=' then withLevel? text (stop + 1) { target := some target }
            else inBracket? text (some target) (stop + 1) rest

end LogDirective

end NamingCheck
