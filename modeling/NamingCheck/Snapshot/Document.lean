import NamingCheck.Json.Token
import NamingCheck.Snapshot.Placement
import NamingCheck.SyntaxTree.Listing

/-!
Snapshots as JSON documents.

A document lists files, directories and links with their paths. A file has its text, or its bytes in
hexadecimal where they are no text, and the listing of its syntax tree. Everything listed is
accessible.
-/

namespace NamingCheck

namespace SyntaxRow

/-- A row is an array: depth, kind, field or null, row, start, end, and a sum of flags. -/
def ofJson? : Json → Option SyntaxRow
  | .array [depth, kind, field, row, start, stop, flags] => do
      let flags ← flags.nat?
      let field ← if field.isNull then some none else field.text?.map fun name => some name
      return {
        depth := ← depth.nat?
        kind := SyntaxKind.ofName (← kind.text?)
        field := field.map SyntaxField.ofName
        row := ← row.nat?
        start := ← start.nat?
        stop := ← stop.nat?
        isNamed := flags.testBit 0
        isError := flags.testBit 1
        isMissing := flags.testBit 2
        hasError := flags.testBit 3 }
  | _ => none

end SyntaxRow

namespace SourceFile

def bytesBehind? (bytes : ByteArray) : List Char → Option ByteArray
  | [] => some bytes
  | [_] => none
  | high :: low :: rest =>
      match Text.hexDigit? high, Text.hexDigit? low with
      | some high, some low => bytesBehind? (bytes.push (UInt8.ofNat (high * 16 + low))) rest
      | _, _ => none

def bytesOfHex? (text : String) : Option ByteArray :=
  bytesBehind? ByteArray.empty text.toList

def treeOfJson? (json : Json) : Option SyntaxNode :=
  (json.listOf? SyntaxRow.ofJson?).bind SyntaxNode.ofRows?

/-- A file without a tree counts as one without declarations. -/
def ofJson? (json : Json) : Option SourceFile := do
  let record ← json.record? ["source", "source_hex", "cst"]
  let text ← record.getD? "source" (fun json => json.text?.map String.toUTF8) ByteArray.empty
  return {
    bytes := ← record.getD? "source_hex" (fun json => json.text?.bind bytesOfHex?) text
    tree := ← record.getD? "cst" treeOfJson? SyntaxNode.blank }

end SourceFile

namespace Snapshot

def nodeOfJson? (json : Json) (record : Record) : Option FileNode :=
  match record.field? "symlink" with
  | some target => target.text?.map FileNode.link
  | none => do
      if ← record.getD? "dir" Json.bool? false then return .directory []
      else return .file (← SourceFile.ofJson? json)

def placeJson? (base : List String) (root : FileNode) (json : Json) : Option FileNode := do
  let record ← json.record? ["path", "dir", "symlink"]
  let path ← record.get? "path" Json.text?
  root.place base path (← nodeOfJson? json record)

/-- The snapshot in which the listed files are below `base`, where the work is done unless the
document says otherwise. -/
def ofJson? (base : List String) (json : Json) : Option Snapshot := do
  let record ← json.record? ["files", "cwd"]
  let files ← record.getD? "files" Json.array? []
  let below ← record.getD? "cwd" Json.text? ""
  let root ← files.foldlM (placeJson? base) (FileNode.put (.directory []) base (.directory []))
  let workingDirectory ← (walkSteps (fun _ => {}) root maxLinks base (Path.steps below)).toOption
  return { root, workingDirectory }

end Snapshot

end NamingCheck
