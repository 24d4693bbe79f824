import NamingCheck.Output.Coloring

/-!
Reading the arguments of the program.

Arguments are read from left to right, and the first one that is wrong, or that asks for help, ends
the reading. Options that are not about checking may stand before or after the command; where they
stand on both sides, the latter counts.
-/

namespace NamingCheck

inductive Shell where
  | bash
  | elvish
  | fish
  | powershell
  | zsh
  deriving DecidableEq, Repr, Inhabited

namespace Shell

def all : List Shell := [.bash, .elvish, .fish, .powershell, .zsh]

def name : Shell → String
  | bash => "bash"
  | elvish => "elvish"
  | fish => "fish"
  | powershell => "powershell"
  | zsh => "zsh"

def ofName? (text : String) : Option Shell := all.find? fun shell => shell.name == text

end Shell

inductive Command where
  | check (paths : List String) (fatalErrors : Bool)
  | completion (shell : Shell)
  deriving DecidableEq, Repr, Inhabited

structure Invocation where
  command : Command
  json : Bool
  verbose : Bool
  color : Option ColorMode
  configDir : Option String
  deriving DecidableEq, Repr, Inhabited

inductive UsageError where
  | unknownArgument (argument : String)
  | repeatedOption (option : String)
  | unexpectedValue (option : String)
  | missingValue (option : String)
  | invalidValue (option value : String)
  | unknownCommand (name : String)
  | missingCommand
  | missingShell
  deriving DecidableEq, Repr, Inhabited

/-- What ends the reading of the arguments before all are read. -/
inductive Interruption where
  | usage (error : UsageError)
  | help
  | version
  deriving DecidableEq, Repr, Inhabited

/-- The place in which options are read. -/
inductive ArgumentLevel where
  | program
  | check
  | completion
  deriving DecidableEq, Repr

inductive ValuedOption where
  | color
  | configDir
  deriving DecidableEq, Repr

def ValuedOption.name : ValuedOption → String
  | color => "--color"
  | configDir => "--config-dir"

structure GivenOptions where
  json : Bool := false
  verbose : Bool := false
  fatalErrors : Bool := false
  color : Option ColorMode := none
  configDir : Option String := none
  deriving DecidableEq, Repr

/-- Beside the options stands the latest one that takes a value: first without it, then with a value
that is still to be looked at. -/
structure OptionReader where
  given : GivenOptions := {}
  awaiting : Option ValuedOption := none
  held : Option (ValuedOption × String) := none
  deriving DecidableEq, Repr

namespace GivenOptions

def refuse {α : Type} (error : UsageError) : Except Interruption α := .error (.usage error)

def setValue (given : GivenOptions) (option : ValuedOption) (value : String) :
    Except Interruption GivenOptions :=
  match option with
  | .color =>
      match ColorMode.ofName? value with
      | none => refuse (.invalidValue option.name value)
      | some choice =>
          if given.color.isSome then refuse (.repeatedOption option.name)
          else .ok { given with color := some choice }
  | .configDir =>
      if value == "" then refuse (.missingValue option.name)
      else if given.configDir.isSome then refuse (.repeatedOption option.name)
      else .ok { given with configDir := some value }

end GivenOptions

namespace OptionReader

open GivenOptions (refuse)

/-- A dash by itself is a value; anything else that starts with one is an option. -/
def isOption (argument : String) : Bool :=
  match argument.toList with
  | '-' :: _ :: _ => true
  | _ => false

def readFlag (reader : OptionReader) (option : String) (value : Option String) (isSet : Bool)
    (given : GivenOptions) : Except Interruption OptionReader :=
  if value.isSome then refuse (.unexpectedValue option)
  else if isSet then refuse (.repeatedOption option)
  else .ok { reader with given := given }

def readValued (reader : OptionReader) (option : ValuedOption) (value : Option String) :
    Except Interruption OptionReader :=
  match value with
  | none => .ok { reader with awaiting := some option }
  | some value => do return { reader with given := ← reader.given.setValue option value }

def readImmediate (option : String) (value : Option String) (interruption : Interruption) :
    Except Interruption OptionReader :=
  if value.isSome then refuse (.unexpectedValue option) else .error interruption

def readLong (level : ArgumentLevel) (reader : OptionReader) (name : String)
    (value : Option String) : Except Interruption OptionReader :=
  let option := "--" ++ name
  match name, level with
  | "json", _ =>
      reader.readFlag option value reader.given.json { reader.given with json := true }
  | "verbose", _ =>
      reader.readFlag option value reader.given.verbose { reader.given with verbose := true }
  | "fatal-errors", .check =>
      reader.readFlag option value reader.given.fatalErrors
        { reader.given with fatalErrors := true }
  | "color", _ => reader.readValued .color value
  | "config-dir", _ => reader.readValued .configDir value
  | "help", _ => readImmediate option value .help
  | "version", .program => readImmediate option value .version
  | _, _ => refuse (.unknownArgument option)

/-- Of several letters behind one dash, the first decides already. -/
def readShort (level : ArgumentLevel) (letter : Char) : Except Interruption OptionReader :=
  match letter, level with
  | 'h', _ => .error .help
  | 'V', .program => .error .version
  | _, _ => refuse (.unknownArgument (String.ofList ['-', letter]))

def readOption (level : ArgumentLevel) (reader : OptionReader) (argument : String) :
    Except Interruption OptionReader :=
  match argument.toList with
  | '-' :: '-' :: rest =>
      let name := rest.takeWhile (· != '=')
      let value := match rest.drop name.length with
        | [] => none
        | _ :: value => some (String.ofList value)
      reader.readLong level (String.ofList name) value
  | '-' :: letter :: _ => readShort level letter
  | _ => refuse (.unknownArgument argument)

/-- The options, once the latest of them is known to be good. -/
def finish (reader : OptionReader) : Except Interruption GivenOptions :=
  match reader.awaiting, reader.held with
  | some option, _ => refuse (.missingValue option.name)
  | none, some (option, value) => reader.given.setValue option value
  | none, none => .ok reader.given

/-- Reads one option, or the value that the option before it asks for. A value is looked at when the
next argument is read, but not before a command. -/
def read (level : ArgumentLevel) (reader : OptionReader) (argument : String) :
    Except Interruption OptionReader :=
  match reader.awaiting with
  | some option =>
      if isOption argument then refuse (.missingValue option.name)
      else .ok { given := reader.given, held := some (option, argument) }
  | none => do readOption level { given := ← reader.finish } argument

/-- Whether the argument is for the reader, and not one that stands by itself. -/
def takes (reader : OptionReader) (argument : String) : Bool :=
  reader.awaiting.isSome || isOption argument

end OptionReader

namespace Arguments

open GivenOptions (refuse)

def addPath (paths : List String) (argument : String) : Except Interruption (List String) :=
  if argument == "" then refuse (.invalidValue "[PATHS]" argument) else .ok (paths ++ [argument])

def addShell (shell : Option Shell) (argument : String) : Except Interruption (Option Shell) :=
  match shell, Shell.ofName? argument with
  | some _, _ => refuse (.unknownArgument argument)
  | none, none => refuse (.invalidValue "<SHELL>" argument)
  | none, some shell => .ok (some shell)

/-- Reads what follows a command. Behind `--` there are no options. -/
def readBehind {α : Type} (level : ArgumentLevel) (add : α → String → Except Interruption α)
    (reader : OptionReader) (values : α) :
    List String → Except Interruption (GivenOptions × α)
  | [] => do return (← reader.finish, values)
  | argument :: rest =>
      if argument == "--" then do
        let given ← reader.finish
        return (given, ← rest.foldlM add values)
      else if reader.takes argument then do
        readBehind level add (← reader.read level argument) values rest
      else do
        readBehind level add { given := ← reader.finish } (← add values argument) rest

/-- A directory from the environment stands in where the arguments name none. -/
def withEnvironment (given : GivenOptions) (configDir : Option String) :
    Except Interruption GivenOptions :=
  match given.configDir, configDir with
  | none, some directory => given.setValue .configDir directory
  | _, _ => .ok given

def combine (environment : Option String) (before behind : GivenOptions) (command : Command) :
    Except Interruption Invocation := do
  discard <| withEnvironment before environment
  let behindFull ← withEnvironment behind environment
  return {
    command := command
    json := before.json || behind.json
    verbose := before.verbose || behind.verbose
    color := behind.color.or before.color
    configDir := (behind.configDir.or before.configDir).or behindFull.configDir }

def helpTopic (topics : List String) : Interruption :=
  match topics with
  | [] => .help
  | [topic] => if ["check", "completion", "help"].contains topic then .help
      else .usage (.unknownCommand topic)
  | topic :: next :: _ =>
      .usage (.unknownCommand (if ["check", "completion", "help"].contains topic then next
        else topic))

/-- What follows the command is read before the last value in front of it is looked at. -/
def readCommand (environment : Option String) (before : OptionReader) (name : String)
    (rest : List String) : Except Interruption Invocation :=
  match name with
  | "check" => do
      let (behind, paths) ← readBehind .check addPath {} [] rest
      combine environment (← before.finish) behind (.check paths behind.fatalErrors)
  | "completion" => do
      let (behind, shell) ← readBehind .completion addShell {} none rest
      match shell with
      | none => refuse .missingShell
      | some shell => combine environment (← before.finish) behind (.completion shell)
  | "help" => .error (helpTopic rest)
  | _ => refuse (.unknownCommand name)

def read (environment : Option String) (reader : OptionReader) :
    List String → Except Interruption Invocation
  | [] => do
      discard <| reader.finish
      refuse .missingCommand
  | argument :: rest =>
      if argument == "--" then
        match rest with
        | [] => refuse .missingCommand
        | name :: _ => refuse (.unknownCommand name)
      else if reader.takes argument then do
        read environment (← reader.read .program argument) rest
      else
        readCommand environment reader argument rest

/-- Reads all arguments; `environment` is the settings directory named outside of them. -/
def parse (arguments : List String) (environment : Option String) :
    Except Interruption Invocation :=
  read environment {} arguments

end Arguments

end NamingCheck
