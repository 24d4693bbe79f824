import NamingCheck.Proofs.Run.Outcome
import NamingCheck.Run.Checking

/-!
# What a run writes

No action of a run looks at what has been written before, so what it writes is a console of its own,
to be put behind. Actions in a row write one behind the other. In this way a run over known files
writes, outcome by outcome, what there is to say about each, and at the end perhaps a summary; the
single file that is streamed is no exception.
-/

namespace NamingCheck

namespace Console

instance : Append Console where
  append console more :=
    { stdout := console.stdout ++ more.stdout
      stderr := console.stderr ++ more.stderr
      events := console.events ++ more.events }

theorem ext {left right : Console} (hstdout : left.stdout = right.stdout)
    (hstderr : left.stderr = right.stderr) (hevents : left.events = right.events) :
    left = right := by
  cases left
  cases right
  simp_all only

variable (console more : Console)

@[simp]
theorem stdout_append : (console ++ more).stdout = console.stdout ++ more.stdout := rfl

@[simp]
theorem stderr_append : (console ++ more).stderr = console.stderr ++ more.stderr := rfl

@[simp]
theorem events_append : (console ++ more).events = console.events ++ more.events := rfl

@[simp]
theorem append_empty : console ++ ({} : Console) = console :=
  ext String.append_empty String.append_empty (List.append_nil _)

@[simp]
theorem empty_append : ({} : Console) ++ console = console :=
  ext String.empty_append String.empty_append (List.nil_append _)

theorem append_assoc (first second third : Console) :
    first ++ second ++ third = first ++ (second ++ third) :=
  ext (String.append_assoc ..) (String.append_assoc ..) (List.append_assoc ..)

def concat : List Console → Console
  | [] => {}
  | first :: rest => first ++ concat rest

@[simp]
theorem stdout_concat (consoles : List Console) :
    (concat consoles).stdout = String.join (consoles.map (·.stdout)) := by
  induction consoles with
  | nil => rfl
  | cons first rest ih => rw [concat, stdout_append, ih, List.map_cons, String.join_cons]

@[simp]
theorem stderr_concat (consoles : List Console) :
    (concat consoles).stderr = String.join (consoles.map (·.stderr)) := by
  induction consoles with
  | nil => rfl
  | cons first rest ih => rw [concat, stderr_append, ih, List.map_cons, String.join_cons]

@[simp]
theorem events_concat (consoles : List Console) :
    (concat consoles).events = consoles.flatMap (·.events) := by
  induction consoles with
  | nil => rfl
  | cons first rest ih => rw [concat, events_append, ih, List.flatMap_cons]

end Console

/-- Whatever has been written before, the action gives the value and writes just this behind. -/
def Writes {α : Type} (action : StateM Console α) (value : α) (written : Console) : Prop :=
  ∀ console, action.run console = (value, console ++ written)

section Writes

variable {α β : Type} {value : α} {written : Console}

theorem Writes.run_empty {action : StateM Console α} (hwrites : Writes action value written) :
    action.run {} = (value, written) := by
  rw [hwrites, Console.empty_append]

theorem Writes.eq {left right : StateM Console α} (hleft : Writes left value written)
    (hright : Writes right value written) : left = right := by
  funext console
  exact (hleft console).trans (hright console).symm

theorem Writes.congr {action : StateM Console α} {same : Console}
    (hwrites : Writes action value written) (hsame : same = written) : Writes action value same :=
  hsame ▸ hwrites

theorem writes_pure (value : α) : Writes (pure value) value {} := by
  intro console
  rw [Console.append_empty]
  rfl

theorem Writes.bind {first : StateM Console α} {second : α → StateM Console β} {result : β}
    {more : Console} (hfirst : Writes first value written)
    (hsecond : Writes (second value) result more) :
    Writes (first >>= second) result (written ++ more) := by
  intro console
  have hstep : (first >>= second).run console =
      (second (first.run console).1).run (first.run console).2 := rfl
  rw [hstep, hfirst, hsecond, Console.append_assoc]

theorem writes_print (text : String) : Writes (Console.print text) () { stdout := text } := by
  intro console
  refine congrArg (Prod.mk ()) (Console.ext ?_ ?_ ?_) <;> simp

theorem writes_printError (text : String) :
    Writes (Console.printError text) () { stderr := text } := by
  intro console
  refine congrArg (Prod.mk ()) (Console.ext ?_ ?_ ?_) <;> simp

theorem writes_log (events : List Event) : Writes (Console.log events) () { events } := by
  intro console
  refine congrArg (Prod.mk ()) (Console.ext ?_ ?_ ?_) <;> simp

theorem writes_forM {action : α → StateM Console Unit} {writtenFor : α → Console}
    (hwrites : ∀ item, Writes (action item) () (writtenFor item)) (items : List α) :
    Writes (items.forM action) () (Console.concat (items.map writtenFor)) := by
  induction items with
  | nil => exact writes_pure ()
  | cons item rest ih => exact (hwrites item).bind ih

/-- Texts that are all empty are nothing. -/
theorem join_map_eq_empty {f : α → String} (hempty : ∀ item, f item = "") (items : List α) :
    String.join (items.map f) = "" := by
  induction items with
  | nil => rfl
  | cons item rest ih => rw [List.map_cons, String.join_cons, hempty, ih, String.empty_append]

theorem writes_forM_print (render : α → String) (items : List α) :
    Writes (items.forM fun item => Console.print (render item)) ()
      { stdout := String.join (items.map render) } := by
  refine .congr (writes_forM (fun item => writes_print (render item)) items) ?_
  refine Console.ext ?_ ?_ ?_
  · rw [Console.stdout_concat, List.map_map]
    rfl
  · rw [Console.stderr_concat, List.map_map]
    exact (join_map_eq_empty (fun _ => rfl) items).symm
  · simp

theorem writes_forM_log (logged : α → List Event) (items : List α) :
    Writes (items.forM fun item => Console.log (logged item)) ()
      { events := items.flatMap logged } := by
  refine .congr (writes_forM (fun item => writes_log (logged item)) items) ?_
  refine Console.ext ?_ ?_ ?_
  · rw [Console.stdout_concat, List.map_map]
    exact (join_map_eq_empty (fun _ => rfl) items).symm
  · rw [Console.stderr_concat, List.map_map]
    exact (join_map_eq_empty (fun _ => rfl) items).symm
  · rw [Console.events_concat, List.flatMap_map]

end Writes

namespace CheckedFile

/-- What is printed about a file: its verdicts between a header and a footer if it was checked, and
else the reason why not. -/
def printed (formatter : Formatter) (outcome : CheckedFile) : Console :=
  match outcome.result with
  | .ok report =>
      { stdout := formatter.header report.file ++ outcome.trace ++ formatter.footer report }
  | .error error => { stderr := formatter.failure (failure outcome.path error) }

theorem writes_printOutcome (formatter : Formatter) (outcome : CheckedFile) :
    Writes (Run.printOutcome formatter outcome) () (outcome.printed formatter) := by
  rw [Run.printOutcome, printed]
  cases outcome.result with
  | error error => exact writes_printError _
  | ok report =>
      refine .congr (.bind (writes_print _) (.bind (writes_print _) (writes_print _))) ?_
      refine Console.ext ?_ rfl rfl
      simp only [Console.stdout_append, String.append_assoc]

end CheckedFile

namespace Run

/-! ### The two ways to check files -/

/-- All that is logged about some files, and behind it all that is printed about them. -/
def shown (formatter : Formatter) (outcomes : List CheckedFile) : Console :=
  { events := outcomes.flatMap (·.events) } ++ Console.concat (outcomes.map (·.printed formatter))

theorem shown_singleton (formatter : Formatter) (outcome : CheckedFile) :
    shown formatter [outcome] = { events := outcome.events } ++ outcome.printed formatter := by
  simp only [shown, List.flatMap_singleton, List.map_singleton, Console.concat,
    Console.append_empty]

@[simp]
theorem stdout_shown (formatter : Formatter) (outcomes : List CheckedFile) :
    (shown formatter outcomes).stdout =
      String.join (outcomes.map fun outcome => (outcome.printed formatter).stdout) := by
  rw [shown, Console.stdout_append, Console.stdout_concat, List.map_map, String.empty_append]
  rfl

@[simp]
theorem stderr_shown (formatter : Formatter) (outcomes : List CheckedFile) :
    (shown formatter outcomes).stderr =
      String.join (outcomes.map fun outcome => (outcome.printed formatter).stderr) := by
  rw [shown, Console.stderr_append, Console.stderr_concat, List.map_map, String.empty_append]
  rfl

@[simp]
theorem events_shown (formatter : Formatter) (outcomes : List CheckedFile) :
    (shown formatter outcomes).events = outcomes.flatMap (·.events) := by
  have hprinted : (outcomes.flatMap fun outcome => (outcome.printed formatter).events) = [] := by
    apply List.flatMap_eq_nil_iff.2
    intro outcome _
    rw [CheckedFile.printed]
    cases outcome.result <;> rfl
  rw [shown, Console.events_append, Console.events_concat, List.flatMap_map, hprinted,
    List.append_nil]

theorem writes_checkEach (formatter : Formatter) (options : CheckOptions) (snapshot : Snapshot)
    (files : List String) :
    let outcomes := CheckedFile.ofPaths options snapshot formatter.verdict files
    Writes (checkEach formatter options snapshot files) (.ofOutcomes outcomes)
      (shown formatter outcomes) := by
  intro outcomes
  refine .congr (.bind (writes_forM_log (·.events) outcomes)
    (.bind (writes_forM (CheckedFile.writes_printOutcome formatter) outcomes) (writes_pure _))) ?_
  rw [Console.append_empty, shown]

/-- A single file that is streamed is logged and printed as if checked by itself. -/
theorem writes_streamFile (formatter : Formatter) (options : CheckOptions) (snapshot : Snapshot)
    (path : String) :
    let outcome := CheckedFile.ofPath options snapshot formatter.verdict path
    Writes (streamFile formatter options snapshot path) (.ofOutcomes [outcome])
      (shown formatter [outcome]) := by
  intro outcome
  rw [shown_singleton]
  have houtcome : outcome = _ := CheckedFile.ofPath_eq options snapshot formatter.verdict path
  rw [streamFile]
  cases hload : LoadedFile.load snapshot path options.fatalErrors with
  | error error =>
      rw [hload] at houtcome
      rw [houtcome]
      refine .congr (.bind (writes_log _) (.bind (writes_printError _) (writes_pure _))) ?_
      rw [Console.append_empty]
      rfl
  | ok parsed =>
      rw [hload] at houtcome
      rw [houtcome]
      dsimp only
      rw [Policy.check_eq]
      refine .congr (.bind (writes_log _) (.bind (writes_print _) (.bind
        (.bind (writes_forM_print formatter.verdict _) (writes_pure _))
        (.bind (writes_print _) (writes_pure _))))) ?_
      refine Console.ext ?_ rfl ?_
      · simp only [Console.stdout_append, Console.append_empty, CheckedFile.printed,
          String.append_assoc]
        rfl
      · simp only [Console.events_append, List.append_nil, CheckedFile.printed]

theorem streamFile_eq_checkEach (formatter : Formatter) (options : CheckOptions)
    (snapshot : Snapshot) (path : String) :
    streamFile formatter options snapshot path = checkEach formatter options snapshot [path] :=
  (writes_streamFile formatter options snapshot path).eq
    (writes_checkEach formatter options snapshot [path])

theorem checkFiles_eq_checkEach (formatter : Formatter) (options : CheckOptions)
    (snapshot : Snapshot) (files : List String) :
    checkFiles formatter options snapshot files = checkEach formatter options snapshot files := by
  match files with
  | [] => rfl
  | [file] => exact streamFile_eq_checkEach formatter options snapshot file
  | _ :: _ :: _ => rfl

/-! ### A run -/

/-- What a run does once its files are known. -/
def checkKnown (formatter : Formatter) (options : CheckOptions) (snapshot : Snapshot)
    (files : List String) (json : Bool) : StateM Console ExitCode := do
  let summary ← checkFiles formatter options snapshot files
  if wantsSummary json files then Console.print (formatter.summary summary)
  return exitCode summary

/-- The text at the end of a run over some files, if any is wanted there. -/
def closingText (formatter : Formatter) (json : Bool) (files : List String) (summary : Summary) :
    String :=
  if wantsSummary json files then formatter.summary summary else ""

theorem writes_checkKnown (formatter : Formatter) (options : CheckOptions) (snapshot : Snapshot)
    (files : List String) (json : Bool) :
    let outcomes := CheckedFile.ofPaths options snapshot formatter.verdict files
    Writes (checkKnown formatter options snapshot files json) (exitCode (.ofOutcomes outcomes))
      (shown formatter outcomes ++
        { stdout := closingText formatter json files (.ofOutcomes outcomes) }) := by
  intro outcomes
  rw [checkKnown, checkFiles_eq_checkEach, closingText]
  have hchecks := writes_checkEach formatter options snapshot files
  cases wantsSummary json files with
  | true =>
      refine .congr (hchecks.bind (.bind (writes_print _) (writes_pure _))) ?_
      rw [Console.append_empty]
      rfl
  | false => exact hchecks.bind (writes_pure _)

/-- Errors are fatal if they are so by the flag or by the settings. -/
def optionsOf (settings : Settings) (fatalErrors : Bool) : CheckOptions where
  policy := settings.policy
  fatalErrors := fatalErrors || settings.fatalErrors

/-- A run that starts only logs what it starts with, and goes on with the files. -/
theorem writes_check {settings : Settings} {snapshot : Snapshot} {paths files : List String}
    (hplan : plan settings snapshot paths = .ok files) (formatter : Formatter)
    (fatalErrors json : Bool) :
    let options := optionsOf settings fatalErrors
    let outcomes := CheckedFile.ofPaths options snapshot formatter.verdict files
    Writes (check formatter settings snapshot paths fatalErrors json)
      (exitCode (.ofOutcomes outcomes))
      ({ events := planEvents settings snapshot paths
          ++ [.checking files.length options.fatalErrors] } ++
        (shown formatter outcomes ++
          { stdout := closingText formatter json files (.ofOutcomes outcomes) })) := by
  intro options outcomes
  have hcheck : check formatter settings snapshot paths fatalErrors json = (do
      Console.log (planEvents settings snapshot paths)
      Console.log [.checking files.length options.fatalErrors]
      checkKnown formatter options snapshot files json) := by
    rw [check, hplan]
    rfl
  rw [hcheck]
  refine .congr (.bind (writes_log _) (.bind (writes_log _)
    (writes_checkKnown formatter options snapshot files json))) ?_
  rw [← Console.append_assoc { events := planEvents settings snapshot paths }]
  rfl

end Run

end NamingCheck
