import Mathlib.Algebra.Order.BigOperators.Group.Finset
import Mathlib.Data.Fintype.BigOperators
import Mathlib.Data.Prod.Lex
import Mathlib.Logic.Relation
import Mathlib.Order.WellFounded
import NamingCheck.Proofs.Run.ExitCode
import NamingCheck.Run.Workers

/-!
# However the workers share a batch, each file is checked by itself

What a job is going to end with is fixed when the job begins: no step of its worker changes it, and
no other worker can. So every outcome is that of a check of its path alone, wherever the parser has
been before. No path gets lost either, because it is left, in the hands of a worker or done; and the
steps come to an end.
-/

namespace NamingCheck

open EntityTree (Pending)

variable {Memory : Type}

theorem Parser.load_fst {parser : Parser Memory} {snapshot : Snapshot}
    (hparser : parser.Reproduces snapshot) (memory : Memory) (path : String) (fatalErrors : Bool) :
    (parser.load memory snapshot path fatalErrors).1 =
      LoadedFile.load snapshot path fatalErrors := by
  rw [load, LoadedFile.load]
  cases hread : snapshot.read path with
  | error cause => rfl
  | ok content =>
      have htree := hparser memory path content hread
      simp only [htree]

/-! ### One job -/

namespace Progress

def remaining : Progress → Nat
  | refused _ => 0
  | judging _ pending _ _ => pending.remaining

variable {policy : Policy} {render : Verdict → String} {progress next : Progress}

/-- The outcome once all that is pending has been judged. -/
def final (policy : Policy) (render : Verdict → String) (path : String) : Progress → CheckedFile
  | refused error => outcome path (refused error)
  | judging parsed pending report trace =>
      let verdicts := pending.toList.map policy.verdict
      outcome path (judging parsed pending (report.extend verdicts)
        (trace ++ String.join (verdicts.map render)))

theorem final_of_advance? (hnext : progress.advance? policy render = some next) (path : String) :
    next.final policy render path = progress.final policy render path := by
  cases progress with
  | refused error => cases hnext
  | judging parsed pending report trace =>
      obtain ⟨⟨entity, rest⟩, hpending, rfl⟩ := Option.map_eq_some_iff.1 hnext
      simp only [final, Pending.toList_of_next? hpending, List.map_cons, Report.add_extend,
        String.join_cons, String.append_assoc]
      rfl

theorem remaining_lt_of_advance? (hnext : progress.advance? policy render = some next) :
    next.remaining < progress.remaining := by
  cases progress with
  | refused error => cases hnext
  | judging parsed pending report trace =>
      obtain ⟨⟨entity, rest⟩, hpending, rfl⟩ := Option.map_eq_some_iff.1 hnext
      exact Pending.remaining_lt_of_next? hpending

theorem outcome_of_advance?_eq_none (hend : progress.advance? policy render = none)
    (path : String) : progress.outcome path = progress.final policy render path := by
  cases progress with
  | refused error => rfl
  | judging parsed pending report trace =>
      have hpending : pending.next? = none := Option.map_eq_none_iff.1 hend
      simp only [final, Pending.toList_of_next?_eq_none hpending, List.map_nil, Report.extend_nil,
        String.join_nil, String.append_empty]

theorem final_start (options : CheckOptions) (snapshot : Snapshot) (render : Verdict → String)
    (path : String) :
    (start (LoadedFile.load snapshot path options.fatalErrors)).final options.policy render path =
      CheckedFile.ofPath options snapshot render path := by
  rw [CheckedFile.ofPath_eq]
  cases LoadedFile.load snapshot path options.fatalErrors with
  | error error => rfl
  | ok parsed =>
      rw [start, final, String.empty_append]
      rfl

end Progress

/-- A bound on the steps that a worker takes before it can take another path. -/
def Worker.remaining (worker : Worker Memory) : Nat :=
  match worker.job with
  | none => 0
  | some job => job.progress.remaining + 1

theorem Worker.remaining_eq {worker : Worker Memory} {job : Job} (hjob : worker.job = some job) :
    worker.remaining = job.progress.remaining + 1 := by
  rw [remaining, hjob]

namespace Batch

variable {crew : Nat} {batch : Batch Memory} {state next : State Memory crew}

/-! ### Who holds which job -/

namespace State

theorem job?_assign_self (state : State Memory crew) (who : Fin crew) (worker : Worker Memory) :
    (state.assign who worker).job? who = worker.job := by
  simp only [job?, assign, Function.update_self]

theorem job?_assign_of_ne {who other : Fin crew} (hne : other ≠ who) (state : State Memory crew)
    (worker : Worker Memory) : (state.assign who worker).job? other = state.job? other := by
  simp only [job?, assign, Function.update_of_ne hne]

theorem forall_job?_assign {Good : Job → Prop} {who : Fin crew} {worker : Worker Memory}
    (hothers : ∀ other job, state.job? other = some job → Good job)
    (hworker : ∀ job, worker.job = some job → Good job) (other : Fin crew) (job : Job)
    (hjob : (state.assign who worker).job? other = some job) : Good job := by
  by_cases hother : other = who
  · subst hother
    rw [job?_assign_self] at hjob
    exact hworker job hjob
  · rw [job?_assign_of_ne hother] at hjob
    exact hothers other job hjob

def Holds (state : State Memory crew) (index : Nat) : Prop :=
  ∃ who job, state.job? who = some job ∧ job.index = index

theorem Holds.assign {index : Nat} (hholds : state.Holds index) {who : Fin crew}
    {worker : Worker Memory} (hkept : ∀ job, state.job? who = some job → job.index = index →
      ∃ kept, worker.job = some kept ∧ kept.index = index) :
    (state.assign who worker).Holds index := by
  obtain ⟨owner, job, hjob, hindex⟩ := hholds
  by_cases howner : owner = who
  · subst howner
    obtain ⟨kept, hworker, hsame⟩ := hkept job hjob hindex
    exact ⟨owner, kept, (job?_assign_self state owner worker).trans hworker, hsame⟩
  · exact ⟨owner, job, (job?_assign_of_ne howner state worker).trans hjob, hindex⟩

theorem outcome?_finish_self {who : Fin crew} {job : Job}
    (hlt : job.index < state.outcomes.length) :
    (finish state who job).outcome? job.index = some (job.progress.outcome job.path) := by
  rw [outcome?, finish, List.getElem?_set_self hlt]
  rfl

theorem outcome?_finish_of_ne {who : Fin crew} {job : Job} {index : Nat}
    (hne : job.index ≠ index) : (finish state who job).outcome? index = state.outcome? index := by
  rw [outcome?, finish, List.getElem?_set_ne hne]
  rfl

end State

/-! ### What holds all the time -/

/-- The outcome of checking a path with no other path around. -/
def alone (batch : Batch Memory) (path : String) : CheckedFile :=
  CheckedFile.ofPath batch.options batch.snapshot batch.render path

/-- A job stands for its path and will end as the check of this path alone. -/
structure Settles (batch : Batch Memory) (job : Job) : Prop where
  path_eq : batch.paths[job.index]? = some job.path
  final_eq : job.progress.final batch.options.policy batch.render job.path = batch.alone job.path

theorem settles_start (hparser : batch.parser.Reproduces batch.snapshot) {index : Nat}
    {path : String} (hpath : batch.paths[index]? = some path) (memory : Memory) :
    batch.Settles
      { index, path
        progress := .start
          (batch.parser.load memory batch.snapshot path batch.options.fatalErrors).1 } where
  path_eq := hpath
  final_eq := by
    rw [Parser.load_fst hparser]
    exact Progress.final_start batch.options batch.snapshot batch.render path

theorem Settles.proceed {job : Job} {progress : Progress} (hsettles : batch.Settles job)
    (hprogress : job.progress.advance? batch.options.policy batch.render = some progress) :
    batch.Settles { job with progress } where
  path_eq := hsettles.path_eq
  final_eq := (Progress.final_of_advance? hprogress job.path).trans hsettles.final_eq

theorem Settles.outcome_eq {job : Job} (hsettles : batch.Settles job)
    (hend : job.progress.advance? batch.options.policy batch.render = none) :
    job.progress.outcome job.path = batch.alone job.path :=
  (Progress.outcome_of_advance?_eq_none hend job.path).trans hsettles.final_eq

/-- No path is lost, and no outcome is that of anything but its own path. -/
structure Sound (batch : Batch Memory) (state : State Memory crew) : Prop where
  lt_of_left : ∀ index ∈ state.left, index < batch.paths.length
  length_eq : state.outcomes.length = batch.paths.length
  settles : ∀ who job, state.job? who = some job → batch.Settles job
  outcome_eq : ∀ index outcome, state.outcome? index = some outcome →
    batch.paths[index]?.map batch.alone = some outcome
  placed : ∀ index < batch.paths.length,
    index ∈ state.left ∨ state.Holds index ∨ (state.outcome? index).isSome

theorem sound_start (batch : Batch Memory) (crew : Nat) : batch.Sound (batch.start crew) where
  lt_of_left index hleft := List.mem_range.1 hleft
  length_eq := List.length_replicate
  settles who job hjob := by cases hjob
  outcome_eq index outcome houtcome := by
    rw [State.outcome?, start, List.getElem?_replicate] at houtcome
    split at houtcome <;> cases houtcome
  placed index hindex := Or.inl (List.mem_range.2 hindex)

theorem Sound.take (hsound : batch.Sound state) (hparser : batch.parser.Reproduces batch.snapshot)
    {who : Fin crew} {index : Nat} {path : String} (hidle : state.job? who = none)
    (hpath : batch.paths[index]? = some path) :
    batch.Sound (batch.take state who index path) where
  lt_of_left other hleft := hsound.lt_of_left other (List.mem_of_mem_erase hleft)
  length_eq := hsound.length_eq
  settles := by
    refine State.forall_job?_assign hsound.settles fun job hjob => ?_
    cases hjob
    exact settles_start hparser hpath _
  outcome_eq := hsound.outcome_eq
  placed other hlt := by
    rcases hsound.placed other hlt with hleft | hholds | houtcome
    · by_cases hother : other = index
      · exact Or.inr (Or.inl ⟨who, _, State.job?_assign_self state who _, hother.symm⟩)
      · exact Or.inl ((List.mem_erase_of_ne hother).2 hleft)
    · refine Or.inr (Or.inl (hholds.assign fun job hjob _ => ?_))
      rw [hidle] at hjob
      cases hjob
    · exact Or.inr (Or.inr houtcome)

theorem Sound.proceed (hsound : batch.Sound state) {who : Fin crew} {job : Job}
    {progress : Progress} (hjob : state.job? who = some job)
    (hprogress : job.progress.advance? batch.options.policy batch.render = some progress) :
    batch.Sound (Batch.proceed state who job progress) where
  lt_of_left := hsound.lt_of_left
  length_eq := hsound.length_eq
  settles := by
    refine State.forall_job?_assign hsound.settles fun held hheld => ?_
    cases hheld
    exact (hsound.settles who job hjob).proceed hprogress
  outcome_eq := hsound.outcome_eq
  placed index hlt := by
    rcases hsound.placed index hlt with hleft | hholds | houtcome
    · exact Or.inl hleft
    · refine Or.inr (Or.inl (hholds.assign fun held hheld hindex => ?_))
      rw [hjob] at hheld
      cases hheld
      exact ⟨_, rfl, hindex⟩
    · exact Or.inr (Or.inr houtcome)

theorem Sound.finish (hsound : batch.Sound state) {who : Fin crew} {job : Job}
    (hjob : state.job? who = some job)
    (hend : job.progress.advance? batch.options.policy batch.render = none) :
    batch.Sound (Batch.finish state who job) := by
  have hsettles := hsound.settles who job hjob
  have hlt : job.index < state.outcomes.length := by
    rw [hsound.length_eq]
    exact (List.getElem?_eq_some_iff.1 hsettles.path_eq).1
  refine ⟨hsound.lt_of_left, ?_, ?_, fun index outcome houtcome => ?_, fun index hindex => ?_⟩
  · exact List.length_set.trans hsound.length_eq
  · exact State.forall_job?_assign hsound.settles nofun
  · by_cases hsame : job.index = index
    · subst hsame
      rw [State.outcome?_finish_self hlt, hsettles.outcome_eq hend] at houtcome
      rw [hsettles.path_eq]
      exact houtcome
    · rw [State.outcome?_finish_of_ne hsame] at houtcome
      exact hsound.outcome_eq index outcome houtcome
  · by_cases hsame : job.index = index
    · subst hsame
      rw [State.outcome?_finish_self hlt]
      exact Or.inr (Or.inr rfl)
    · rw [State.outcome?_finish_of_ne hsame]
      rcases hsound.placed index hindex with hleft | hholds | houtcome
      · exact Or.inl hleft
      · refine Or.inr (Or.inl (hholds.assign fun held hheld hown => ?_))
        rw [hjob] at hheld
        cases hheld
        exact absurd hown hsame
      · exact Or.inr (Or.inr houtcome)

theorem Sound.step (hparser : batch.parser.Reproduces batch.snapshot) (hsound : batch.Sound state)
    (hstep : batch.Step state next) : batch.Sound next := by
  cases hstep with
  | take hidle _ hpath => exact hsound.take hparser hidle hpath
  | proceed hjob hprogress => exact hsound.proceed hjob hprogress
  | finish hjob hend => exact hsound.finish hjob hend

def Reaches (batch : Batch Memory) (state : State Memory crew) : Prop :=
  Relation.ReflTransGen batch.Step (batch.start crew) state

theorem Reaches.sound (hparser : batch.parser.Reproduces batch.snapshot)
    (hreaches : batch.Reaches state) : batch.Sound state := by
  -- Along the run: it holds at the start, and no step of any worker breaks it.
  induction hreaches with
  | refl => exact sound_start batch crew
  | tail _ hstep ih => exact ih.step hparser hstep

theorem Sound.getElem?_outcomes (hsound : batch.Sound state) (hfinished : state.Finished)
    {index : Nat} {path : String} (hpath : batch.paths[index]? = some path) :
    state.outcomes[index]? = some (some (batch.alone path)) := by
  have hlt : index < batch.paths.length := (List.getElem?_eq_some_iff.1 hpath).1
  -- Nothing is left and nobody is busy, so the place has been filled.
  rcases hsound.placed index hlt with hleft | ⟨who, job, hjob, -⟩ | hplaced
  · rw [hfinished.1] at hleft
    cases hleft
  · rw [hfinished.2 who] at hjob
    cases hjob
  · obtain ⟨outcome, houtcome⟩ := Option.isSome_iff_exists.1 hplaced
    have halone := hsound.outcome_eq index outcome houtcome
    rw [hpath, Option.map_some, Option.some_inj] at halone
    rw [halone]
    exact Option.join_eq_some_iff.1 houtcome

theorem Sound.outcomes_eq (hsound : batch.Sound state) (hfinished : state.Finished) :
    state.outcomes =
      (CheckedFile.ofPaths batch.options batch.snapshot batch.render batch.paths).map some := by
  apply List.ext_getElem?
  intro index
  rw [CheckedFile.ofPaths, List.map_map, List.getElem?_map]
  cases hpath : batch.paths[index]? with
  | none =>
      rw [List.getElem?_eq_none_iff, ← hsound.length_eq] at hpath
      exact List.getElem?_eq_none hpath
  | some path => exact hsound.getElem?_outcomes hfinished hpath

/-! ### The end of a run -/

namespace State

/-- A path that is left counts for more than any job, because it is not known yet how much there is
to judge in it. -/
def weight (state : State Memory crew) : Nat ×ₗ Nat :=
  toLex (state.left.length, ∑ who, (state.workers who).remaining)

theorem sum_remaining_assign_lt {who : Fin crew} {worker : Worker Memory}
    (hlt : worker.remaining < (state.workers who).remaining) :
    ∑ other, ((state.assign who worker).workers other).remaining <
      ∑ other, (state.workers other).remaining := by
  have hself : (state.assign who worker).workers who = worker := Function.update_self ..
  have hle (other : Fin crew) :
      ((state.assign who worker).workers other).remaining ≤
        (state.workers other).remaining := by
    by_cases hother : other = who
    · subst hother
      rw [hself]
      exact hlt.le
    · have hsame : (state.assign who worker).workers other = state.workers other :=
        Function.update_of_ne hother ..
      rw [hsame]
  refine Finset.sum_lt_sum (fun other _ => hle other) ⟨who, Finset.mem_univ who, ?_⟩
  rw [hself]
  exact hlt

end State

theorem Step.weight_lt (hstep : batch.Step state next) : next.weight < state.weight := by
  rw [State.weight, State.weight, Prod.Lex.toLex_lt_toLex]
  cases hstep with
  | take _ hleft _ =>
      left
      have hpos := List.length_pos_of_mem hleft
      have hlength := List.length_erase_of_mem hleft
      change (state.left.erase _).length < state.left.length
      omega
  | @proceed who job progress hjob hprogress =>
      refine Or.inr ⟨rfl, State.sum_remaining_assign_lt ?_⟩
      have hlt := Progress.remaining_lt_of_advance? hprogress
      rw [Worker.remaining_eq hjob, Worker.remaining_eq rfl]
      exact Nat.succ_lt_succ hlt
  | @finish who job hjob _ =>
      refine Or.inr ⟨rfl, State.sum_remaining_assign_lt ?_⟩
      rw [Worker.remaining_eq hjob]
      exact Nat.succ_pos _

theorem wellFounded_step (batch : Batch Memory) (crew : Nat) :
    WellFounded fun next state : State Memory crew => batch.Step state next :=
  Subrelation.wf Step.weight_lt (InvImage.wf State.weight wellFounded_lt)

theorem Sound.exists_step (hsound : batch.Sound state) (hcrew : 0 < crew)
    (hfinished : ¬state.Finished) : ∃ next, batch.Step state next := by
  -- A crew without jobs has a path left to take, and a worker with a job can always go on.
  by_cases hidle : ∀ who, state.job? who = none
  · have hleft : state.left ≠ [] := fun hnil => hfinished ⟨hnil, hidle⟩
    obtain ⟨index, hindex⟩ := List.exists_mem_of_ne_nil _ hleft
    have hpath := List.getElem?_eq_getElem (hsound.lt_of_left index hindex)
    exact ⟨_, .take (hidle ⟨0, hcrew⟩) hindex hpath⟩
  · rw [not_forall] at hidle
    obtain ⟨who, hbusy⟩ := hidle
    obtain ⟨job, hjob⟩ := Option.ne_none_iff_exists'.1 hbusy
    cases hprogress : job.progress.advance? batch.options.policy batch.render with
    | none => exact ⟨_, .finish hjob hprogress⟩
    | some progress => exact ⟨_, .proceed hjob hprogress⟩

/-- A crew gets to the end of any batch. -/
theorem exists_finished (batch : Batch Memory) (hcrew : 0 < crew)
    (hparser : batch.parser.Reproduces batch.snapshot) :
    ∃ state : State Memory crew, batch.Reaches state ∧ state.Finished := by
  -- Of the states that are reached, one that no step leads out of.
  obtain ⟨state, hreaches, hstuck⟩ :=
    (wellFounded_step batch crew).has_min batch.Reaches ⟨_, .refl⟩
  refine ⟨state, hreaches, ?_⟩
  by_contra hbusy
  obtain ⟨next, hstep⟩ := (hreaches.sound hparser).exists_step hcrew hbusy
  exact hstuck next (hreaches.tail hstep) hstep

/-! ### What a batch gives for its paths -/

/-- The outcome of a path tells what checking the path gives while nobody looks on, and traces just
what is in the report. -/
structure Tells (batch : Batch Memory) (path : String) (outcome : CheckedFile) : Prop where
  path_eq : outcome.path = path
  result_eq : outcome.result =
    (LoadedFile.load batch.snapshot path batch.options.fatalErrors).map fun parsed =>
      Id.run (batch.options.policy.check parsed.root.name parsed.root fun _ => pure ())
  trace_eq : outcome.trace = CheckedFile.traceOf batch.render outcome.result

theorem tells_alone (batch : Batch Memory) (path : String) :
    batch.Tells path (batch.alone path) where
  path_eq := CheckedFile.ofPath_path batch.options batch.snapshot batch.render path
  result_eq := by
    rw [alone, CheckedFile.ofPath_result]
    congr 1
    funext parsed
    rw [Policy.check_eq]
    rfl
  trace_eq := CheckedFile.ofPath_trace batch.options batch.snapshot batch.render path

theorem alone_eq_of_read_eq {Elsewhere : Type} {other : Batch Elsewhere}
    (hoptions : other.options = batch.options) (hrender : other.render = batch.render)
    {path : String} (hread : other.snapshot.read path = batch.snapshot.read path) :
    other.alone path = batch.alone path := by
  rw [alone, alone, hoptions, hrender]
  exact CheckedFile.ofPath_congr (LoadedFile.load_congr hread _)

/-- Every run of a crew comes to its end, and then the outcomes stand in the order of the paths,
each that of its path alone. In another batch, in whatever company, the same path gets the same
outcome as long as the same is read there. -/
theorem outcomes_of_run (batch : Batch Memory) {crew : Nat} (hcrew : 0 < crew)
    (hparser : batch.parser.Reproduces batch.snapshot) :
    (WellFounded fun next state : State Memory crew => batch.Step state next) ∧
    (∀ state : State Memory crew, batch.Reaches state → ¬state.Finished →
      ∃ next, batch.Step state next) ∧
    ∀ state : State Memory crew, batch.Reaches state → state.Finished →
      state.outcomes =
        (CheckedFile.ofPaths batch.options batch.snapshot batch.render batch.paths).map some ∧
      ∀ (index : Nat) (path : String), batch.paths[index]? = some path →
        ∃ outcome, state.outcomes[index]? = some (some outcome) ∧
          outcome = CheckedFile.ofPath batch.options batch.snapshot batch.render path ∧
          batch.Tells path outcome ∧
          ∀ (Elsewhere : Type) (other : Batch Elsewhere) (size : Nat) (last : State Elsewhere size)
            (place : Nat), other.options = batch.options → other.render = batch.render →
            other.parser.Reproduces other.snapshot → other.Reaches last → last.Finished →
            other.paths[place]? = some path →
            other.snapshot.read path = batch.snapshot.read path →
            last.outcomes[place]? = some (some outcome) := by
  refine ⟨wellFounded_step batch crew, fun state hreaches => ?_, fun state hreaches hfinished => ?_⟩
  · exact (hreaches.sound hparser).exists_step hcrew
  · have hsound := hreaches.sound hparser
    refine ⟨hsound.outcomes_eq hfinished, fun index path hpath => ?_⟩
    refine ⟨batch.alone path, hsound.getElem?_outcomes hfinished hpath, rfl,
      batch.tells_alone path, ?_⟩
    intro Elsewhere other size last place hoptions hrender hother hlast hdone hplace hread
    rw [(hlast.sound hother).getElem?_outcomes hdone hplace,
      alone_eq_of_read_eq hoptions hrender hread]

/-- A parser that knows one tree and counts what it is given. -/
def drawParser : Parser Nat where
  fresh := 0
  parse memory _ := (Run.drawTree, memory + 1)

/-- Twice the same file, and between them one that is not there. -/
def drawBatch : Batch Nat where
  parser := drawParser
  options := ⟨.standard, true⟩
  snapshot := .ofFile "a.cpp" ⟨Run.drawSource, Run.drawTree⟩
  render := Verdict.name
  paths := ["a.cpp", "b.cpp", "a.cpp"]

theorem outcomes_of_run_draw :
    ∃ state : State Nat 2, drawBatch.Reaches state ∧ state.Finished ∧
      state.outcomes.map (·.map (·.trace)) = [some "draw", some "", some "draw"] := by
  have hparser : drawBatch.parser.Reproduces drawBatch.snapshot := by
    intro memory path content hread
    cases Snapshot.eq_of_read_ofFile hread
    rfl
  obtain ⟨hends, hgoes, hlast⟩ := drawBatch.outcomes_of_run (show 0 < 2 by decide) hparser
  -- Of the states that are reached, one that no step leads out of.
  obtain ⟨state, hreaches, hstuck⟩ := hends.has_min drawBatch.Reaches ⟨_, .refl⟩
  have hfinished : state.Finished := by
    by_contra hbusy
    obtain ⟨next, hstep⟩ := hgoes state hreaches hbusy
    exact hstuck next (hreaches.tail hstep) hstep
  have hmissing : drawBatch.snapshot.read "b.cpp" = .error .notFound := by
    have hplain : Path.IsPlain "b.cpp" := by
      decide +kernel
    exact Snapshot.read_of_resolve_eq_error (Snapshot.resolve_ofFile hplain "a.cpp" _)
  have hfound : (drawBatch.alone "a.cpp").trace = "draw" := by
    rw [alone, CheckedFile.ofPath_eq, LoadedFile.load, drawBatch, Snapshot.read_ofFile]
    decide +kernel
  have hnone : (drawBatch.alone "b.cpp").trace = "" := by
    rw [alone, CheckedFile.ofPath_eq, LoadedFile.load, hmissing]
  refine ⟨state, hreaches, hfinished, ?_⟩
  rw [(hlast state hreaches hfinished).1]
  change [some (drawBatch.alone "a.cpp").trace, some (drawBatch.alone "b.cpp").trace,
    some (drawBatch.alone "a.cpp").trace] = _
  rw [hfound, hnone]

end Batch

end NamingCheck
