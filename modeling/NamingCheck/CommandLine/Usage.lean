import NamingCheck.CommandLine.Arguments
import NamingCheck.Verdict.OfRun

/-!
What the program tells about itself.
-/

namespace NamingCheck

namespace UsageError

def message : UsageError → String
  | unknownArgument argument => "unexpected argument '" ++ argument ++ "' found"
  | repeatedOption option => "the argument '" ++ option ++ "' cannot be used multiple times"
  | unexpectedValue option => "unexpected value for '" ++ option ++ "' found; no more were expected"
  | missingValue option => "a value is required for '" ++ option ++ "' but none was supplied"
  | invalidValue option value => "invalid value '" ++ value ++ "' for '" ++ option ++ "'"
  | unknownCommand name => "unrecognized subcommand '" ++ name ++ "'"
  | missingCommand => "a subcommand is required but one was not provided"
  | missingShell => "the required argument <SHELL> was not provided"

end UsageError

namespace Usage

def versionText : String := "crest " ++ Summary.programVersion ++ "\n"

def helpText : String :=
  "Naming-convention checker for C/C++ functions and methods\n\n"
    ++ "Usage: crest [OPTIONS] <COMMAND>\n\n"
    ++ "Commands:\n"
    ++ "  check [PATHS]...    Check function and method names in C/C++ files or directories\n"
    ++ "  completion <SHELL>  Generate shell completions\n"
    ++ "  help                Print this message\n\n"
    ++ "Options:\n"
    ++ "      --json              Output as structured JSON\n"
    ++ "      --verbose           Log debug diagnostics to stderr\n"
    ++ "      --color <COLOR>     When to colour the status tags: auto, always, never\n"
    ++ "      --config-dir <DIR>  Directory containing crest.json [env: CREST_DIR]\n"
    ++ "      --fatal-errors      Fail a file on syntax errors (check only)\n"
    ++ "  -h, --help              Print help\n"
    ++ "  -V, --version           Print version\n"

def errorText (error : UsageError) : String :=
  "error: " ++ error.message ++ "\n\nFor more information, try '--help'.\n"

/-- The words that a shell may offer behind the name of the program. -/
def completionWords : String :=
  "check completion help --json --verbose --color --config-dir --fatal-errors --help --version"

def completionScript : Shell → String
  | .bash => "complete -o default -W \"" ++ completionWords ++ "\" crest\n"
  | .zsh => "compctl -f -k \"(" ++ completionWords ++ ")\" crest\n"
  | .fish => "complete -c crest -a \"" ++ completionWords ++ "\"\n"
  | .elvish =>
      "set edit:completion:arg-completer[crest] = \x7b|@words| put " ++ completionWords ++ " \x7d\n"
  | .powershell =>
      "Register-ArgumentCompleter -Native -CommandName crest -ScriptBlock \x7b '"
        ++ completionWords ++ "' -split ' ' \x7d\n"

end Usage

end NamingCheck
