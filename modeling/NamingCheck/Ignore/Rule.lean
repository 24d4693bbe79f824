import NamingCheck.Glob.Set
import NamingCheck.Text.Blank
import NamingCheck.Text.Lines

/-!
The lines of an ignore file.

A line names paths to be skipped, or kept in spite of other lines, relative to the directory of the
file. The last line that matches a path decides about it.
-/

namespace NamingCheck

structure IgnoreRule where
  pattern : GlobPattern
  /-- Written with `!`: matching paths are kept. -/
  keeps : Bool
  directoriesOnly : Bool
  deriving Inhabited, Repr

namespace IgnoreRule

open Text (isBlank trimEnd)

def endsWith (ending text : List Char) : Bool :=
  ending.isSuffixOf text

/-- Blanks at the end do not count unless the last one is escaped. -/
def withoutTrailingBlanks (line : List Char) : List Char :=
  if endsWith ['\\', ' '] line then line else trimEnd isBlank line

/-- A pattern that names no directory holds at every depth. -/
def atAnyDepth (anchored : Bool) (pattern : List Char) : List Char :=
  if anchored || pattern.contains '/' || pattern == ['*', '*'] then pattern
  else "**/".toList ++ pattern

/-- A pattern for all that is in a directory does not name the directory itself. -/
def insideOnly (pattern : List Char) : List Char :=
  if endsWith "/**".toList pattern then pattern ++ "/*".toList else pattern

/-- Takes the mark of a directory off the end of a pattern, with a backslash before it. -/
def splitDirectoryMark (pattern : List Char) : List Char × Bool :=
  match pattern.reverse with
  | '/' :: '\\' :: rest => (rest.reverse, true)
  | '/' :: rest => (rest.reverse, true)
  | _ => (pattern, false)

def ofPattern? (keeps anchored : Bool) (pattern : List Char) : Option IgnoreRule :=
  let (bare, directoriesOnly) := splitDirectoryMark pattern
  match GlobPattern.parse .ignoreFile (String.ofList (insideOnly (atAnyDepth anchored bare))) with
  | .ok pattern => some { pattern, keeps, directoriesOnly }
  | .error _ => none

def ofAnchor? (keeps : Bool) : List Char → Option IgnoreRule
  | '/' :: rest => ofPattern? keeps true rest
  | line => ofPattern? keeps false line

/-- Comments, blank lines and patterns that cannot be read give no rule. -/
def ofLine? (line : List Char) : Option IgnoreRule :=
  match line with
  | '#' :: _ => none
  | _ =>
      match withoutTrailingBlanks line with
      | [] => none
      | '\\' :: '!' :: rest => ofPattern? false false ('!' :: rest)
      | '\\' :: '#' :: rest => ofPattern? false false ('#' :: rest)
      | '!' :: rest => ofAnchor? true rest
      | line => ofAnchor? false line

def applies (rule : IgnoreRule) (path : String) (isDirectory : Bool) : Bool :=
  (!rule.directoriesOnly || isDirectory) && rule.pattern.matchesPath path

end IgnoreRule

namespace IgnoreRules

def byteOrderMark : Char := '\uFEFF'

def withoutByteOrderMark : List String → List (List Char)
  | [] => []
  | first :: rest => first.toList.dropWhile (· == byteOrderMark) :: rest.map String.toList

/-- The rules of a file, whose patterns are used together: if they make no set, there is no rule. -/
def ofBytes (bytes : ByteArray) : List IgnoreRule :=
  let rules := (withoutByteOrderMark (Text.lines bytes)).filterMap IgnoreRule.ofLine?
  if (PatternSet.fault? (rules.map (·.pattern))).isSome then [] else rules

/-- Whether a path is kept, if some rule speaks of it. -/
def keeps? (rules : List IgnoreRule) (path : String) (isDirectory : Bool) : Option Bool :=
  (rules.reverse.find? fun rule => rule.applies path isDirectory).map (·.keeps)

end IgnoreRules

end NamingCheck
