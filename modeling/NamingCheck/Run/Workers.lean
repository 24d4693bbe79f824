import Mathlib.Logic.Function.Basic
import NamingCheck.Run.CheckedFile

/-!
Several workers that share the paths of a batch.

A worker without a job takes any path that is left and then judges the entities of the file one by
one. Between two steps of a worker the others may take any number of theirs. Every worker has its
own parser and gathers its own report and trace; what they share is the list of the paths that are
left and the places for the outcomes, one for each path.
-/

namespace NamingCheck

/-- A parser is used for one source after the other and may keep something from each. -/
structure Parser (Memory : Type) where
  fresh : Memory
  parse : Memory → ByteArray → SyntaxNode × Memory

namespace Parser

variable {Memory : Type}

/-- A file that cannot be read never gets to the parser. -/
def load (parser : Parser Memory) (memory : Memory) (snapshot : Snapshot) (path : String)
    (fatalErrors : Bool) : Except FileError LoadedFile × Memory :=
  match snapshot.read path with
  | .error cause => (.error (.unreadable path cause), memory)
  | .ok content =>
      let (tree, memory) := parser.parse memory content.bytes
      (LoadedFile.ofSource path { content with tree } fatalErrors, memory)

/-- Whatever it was used for before, the parser finds the trees that go with the files. -/
def Reproduces (parser : Parser Memory) (snapshot : Snapshot) : Prop :=
  ∀ (memory : Memory) (path : String) (content : SourceFile), snapshot.read path = .ok content →
    (parser.parse memory content.bytes).1 = content.tree

end Parser

inductive Progress where
  | refused (error : FileError)
  | judging (parsed : LoadedFile) (pending : EntityTree.Pending Entity) (report : Report)
      (trace : String)

namespace Progress

def start : Except FileError LoadedFile → Progress
  | .error error => refused error
  | .ok parsed => judging parsed (.start parsed.root) (.empty parsed.root.name) ""

/-- Renders and stores the next verdict, if there is one. -/
def advance? (policy : Policy) (render : Verdict → String) : Progress → Option Progress
  | refused _ => none
  | judging parsed pending report trace =>
      pending.next?.map fun (entity, rest) =>
        let verdict := policy.verdict entity
        judging parsed rest (report.add verdict) (trace ++ render verdict)

/-- The outcome if the check ends here. -/
def outcome (path : String) : Progress → CheckedFile
  | refused error =>
      { path, result := .error error, trace := "", events := LoadedFile.events path (.error error) }
  | judging parsed _ report trace =>
      { path, result := .ok report, trace, events := LoadedFile.events path (.ok parsed) }

end Progress

/-- The check of the path at a position in the batch. -/
structure Job where
  index : Nat
  path : String
  progress : Progress

structure Worker (Memory : Type) where
  memory : Memory
  job : Option Job

/-- What a batch asks for. None of it changes while the workers are at it. -/
structure Batch (Memory : Type) where
  parser : Parser Memory
  options : CheckOptions
  snapshot : Snapshot
  render : Verdict → String
  paths : List String

namespace Batch

variable {Memory : Type} {crew : Nat}

structure State (Memory : Type) (crew : Nat) where
  /-- Where the paths stand that no worker has taken yet. -/
  left : List Nat
  workers : Fin crew → Worker Memory
  outcomes : List (Option CheckedFile)

namespace State

def assign (state : State Memory crew) (who : Fin crew) (worker : Worker Memory) :
    State Memory crew :=
  { state with workers := Function.update state.workers who worker }

def job? (state : State Memory crew) (who : Fin crew) : Option Job :=
  (state.workers who).job

def outcome? (state : State Memory crew) (index : Nat) : Option CheckedFile :=
  state.outcomes[index]?.join

/-- Every path has been taken and no worker is busy. -/
def Finished (state : State Memory crew) : Prop :=
  state.left = [] ∧ ∀ who, state.job? who = none

end State

def start (batch : Batch Memory) (crew : Nat) : State Memory crew where
  left := List.range batch.paths.length
  workers _ := { memory := batch.parser.fresh, job := none }
  outcomes := List.replicate batch.paths.length none

def take (batch : Batch Memory) (state : State Memory crew) (who : Fin crew) (index : Nat)
    (path : String) : State Memory crew :=
  let (loaded, memory) := batch.parser.load (state.workers who).memory batch.snapshot path
    batch.options.fatalErrors
  { state.assign who { memory, job := some { index, path, progress := .start loaded } } with
    left := state.left.erase index }

def proceed (state : State Memory crew) (who : Fin crew) (job : Job) (progress : Progress) :
    State Memory crew :=
  state.assign who { state.workers who with job := some { job with progress } }

def finish (state : State Memory crew) (who : Fin crew) (job : Job) : State Memory crew :=
  { state.assign who { state.workers who with job := none } with
    outcomes := state.outcomes.set job.index (some (job.progress.outcome job.path)) }

inductive Step (batch : Batch Memory) : State Memory crew → State Memory crew → Prop
  | take {state : State Memory crew} {who : Fin crew} {index : Nat} {path : String}
      (hidle : state.job? who = none) (hleft : index ∈ state.left)
      (hpath : batch.paths[index]? = some path) : Step batch state (batch.take state who index path)
  | proceed {state : State Memory crew} {who : Fin crew} {job : Job} {progress : Progress}
      (hjob : state.job? who = some job)
      (hprogress : job.progress.advance? batch.options.policy batch.render = some progress) :
      Step batch state (proceed state who job progress)
  | finish {state : State Memory crew} {who : Fin crew} {job : Job}
      (hjob : state.job? who = some job)
      (hend : job.progress.advance? batch.options.policy batch.render = none) :
      Step batch state (finish state who job)

/-- What a worker logs about the file at a path. -/
def logged (batch : Batch Memory) (worker : Worker Memory) (path : String) : List Event :=
  LoadedFile.events path
    (batch.parser.load worker.memory batch.snapshot path batch.options.fatalErrors).1

/-- The log on the way to a state. A worker logs all there is to say about a file when it takes the
path, so that the order is that in which the paths happen to be taken. -/
inductive Logs (batch : Batch Memory) : State Memory crew → List Event → Prop
  | start : Logs batch (batch.start crew) []
  | take {state : State Memory crew} {log : List Event} {who : Fin crew} {index : Nat}
      {path : String} (hlogs : Logs batch state log) (hidle : state.job? who = none)
      (hleft : index ∈ state.left) (hpath : batch.paths[index]? = some path) :
      Logs batch (batch.take state who index path) (log ++ batch.logged (state.workers who) path)
  | proceed {state : State Memory crew} {log : List Event} {who : Fin crew} {job : Job}
      {progress : Progress} (hlogs : Logs batch state log) (hjob : state.job? who = some job)
      (hprogress : job.progress.advance? batch.options.policy batch.render = some progress) :
      Logs batch (proceed state who job progress) log
  | finish {state : State Memory crew} {log : List Event} {who : Fin crew} {job : Job}
      (hlogs : Logs batch state log) (hjob : state.job? who = some job)
      (hend : job.progress.advance? batch.options.policy batch.render = none) :
      Logs batch (finish state who job) log

end Batch

end NamingCheck
