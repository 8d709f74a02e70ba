import Mathlib.Data.List.Nodup
import Mathlib.Logic.Relation
import Wiring.Proofs.Reference
import Wiring.Proofs.StableSort

/-!
# Schedules

The jobs of a plan run at the same time, but only so many of them at once. A job is spawned, in the
order of the plan, as soon as there is a permit for it; spawned jobs begin and finish in any order,
and a job that finishes gives its permit back; when all jobs are spawned, their results are joined,
in any order.

* `Schedule`, `Schedule.Step`, `Schedule.Reachable`: the states of a run and its steps;
* `Schedule.Invariant`, `Schedule.Step.invariant`: permits and results are never lost;
* `Schedule.Step.work_eq`, `Schedule.Invariant.step_or_isOver`: every run goes on until it is over,
  and no run goes on for ever;
* `Plan.report_eq_of_perm`: a report does not depend on the order in which results are joined;
* `Pipeline.completes_iff`, `Pipeline.run?_eq_some_iff`: when a run has a report, and which;
* **`schedule_ends_with_reference`**: whatever the order, the run ends with the report of the work
  in sequence.
-/

namespace Wiring

/-- A state of a run: the jobs that still wait and the place of the first of them, the permits that
are left, the jobs that were spawned and those that have begun, each with its place, and the results
that wait to be joined and those that were joined. -/
structure Schedule where
  waiting : List Job
  place : Nat
  permits : Nat
  spawned : List (Nat × Job)
  running : List (Nat × Job)
  ended : List JobResult
  joined : List JobResult

/-- The result of a job at its place. -/
def JobResult.ofTask (unit : CompilationUnit) (context : Context) (task : Nat × Job) : JobResult :=
  ⟨task.1, task.2, task.2.outcome unit context⟩

namespace Schedule

/-- The state before the first job is spawned. -/
def start (jobs : List Job) (limit : Nat) : Schedule := ⟨jobs, 0, limit, [], [], [], []⟩

/-- How many jobs hold a permit, from when they are spawned until they finish. -/
def holders (s : Schedule) : Nat := s.spawned.length + s.running.length

/-- Whether everything is joined. -/
structure IsOver (s : Schedule) : Prop where
  waiting : s.waiting = []
  spawned : s.spawned = []
  running : s.running = []
  ended : s.ended = []

section

variable (unit : CompilationUnit) (context : Context)

/-- The steps of a run. Only spawning needs a permit, and joining starts after the last job was
spawned. -/
inductive Step : Schedule → Schedule → Prop where
  | spawn {job waiting place permits spawned running ended joined} :
    Step ⟨job :: waiting, place, permits + 1, spawned, running, ended, joined⟩
      ⟨waiting, place + 1, permits, spawned ++ [(place, job)], running, ended, joined⟩
  | begin {waiting place permits before task after running ended joined} :
    Step ⟨waiting, place, permits, before ++ task :: after, running, ended, joined⟩
      ⟨waiting, place, permits, before ++ after, running ++ [task], ended, joined⟩
  | finish {waiting place permits spawned before task after ended joined} :
    Step ⟨waiting, place, permits, spawned, before ++ task :: after, ended, joined⟩
      ⟨waiting, place, permits + 1, spawned, before ++ after,
        ended ++ [JobResult.ofTask unit context task], joined⟩
  | join {place permits spawned running before result after joined} :
    Step ⟨[], place, permits, spawned, running, before ++ result :: after, joined⟩
      ⟨[], place, permits, spawned, running, before ++ after, joined ++ [result]⟩

/-- The states that a run of jobs can get to with so many permits. -/
def Reachable (jobs : List Job) (limit : Nat) (s : Schedule) : Prop :=
  Relation.ReflTransGen (Step unit context) (start jobs limit) s

/-- The results of all jobs, as far as a state has got with each. -/
def results (s : Schedule) : List JobResult :=
  s.joined ++ (s.ended ++ (s.spawned.map (JobResult.ofTask unit context) ++
    (s.running.map (JobResult.ofTask unit context) ++ resultsFrom unit context s.place s.waiting)))

/-- No permit is lost or made, and no result is lost or made. -/
structure Invariant (jobs : List Job) (limit : Nat) (s : Schedule) : Prop where
  permits : s.permits + s.holders = limit
  results : (s.results unit context).Perm (resultsFrom unit context 0 jobs)

/-! ## What a step keeps -/

variable {unit context} {s t : Schedule}

theorem Step.permits_add_holders (h : Step unit context s t) :
    t.permits + t.holders = s.permits + s.holders := by
  cases h <;> simp [holders] <;> omega

/-- A member that stands behind two lists may stand before them. -/
theorem perm_move {α : Type} (a : α) (before between after : List α) :
    (before ++ (between ++ a :: after)).Perm (a :: (before ++ (between ++ after))) := by
  rw [← List.append_assoc, ← List.append_assoc]
  exact List.perm_middle

theorem Step.results_perm (h : Step unit context s t) :
    (t.results unit context).Perm (s.results unit context) := by
  cases h with
  | spawn =>
    simp only [results, List.map_append, List.map_cons, List.map_nil, List.append_assoc,
      List.cons_append, List.nil_append]
    refine .append_left _ (.append_left _ (.append_left _ ?_))
    exact List.perm_middle.symm
  | begin =>
    simp only [results, List.map_append, List.map_cons, List.map_nil, List.append_assoc,
      List.cons_append, List.nil_append]
    refine .append_left _ (.append_left _ (.append_left _ ?_))
    exact perm_move _ _ _ _
  | finish =>
    simp only [results, List.map_append, List.map_cons, List.append_assoc, List.cons_append,
      List.nil_append]
    refine .append_left _ (.append_left _ ?_)
    exact (perm_move _ _ _ _).symm
  | join =>
    simp only [results, List.append_assoc, List.cons_append, List.nil_append]
    refine .append_left _ ?_
    exact List.perm_middle.symm

theorem invariant_start (jobs : List Job) (limit : Nat) :
    Invariant unit context jobs limit (start jobs limit) where
  permits := rfl
  results := List.Perm.refl _

/-- **A step keeps the invariant.** -/
theorem Step.invariant {jobs : List Job} {limit : Nat} (h : Step unit context s t)
    (hs : Invariant unit context jobs limit s) : Invariant unit context jobs limit t where
  permits := h.permits_add_holders.trans hs.permits
  results := h.results_perm.trans hs.results

/-- **Every state that can be reached has the invariant.** -/
theorem Reachable.invariant {jobs : List Job} {limit : Nat}
    (h : Reachable unit context jobs limit s) : Invariant unit context jobs limit s := by
  induction h with
  | refl => exact invariant_start jobs limit
  | tail _ hstep ih => exact hstep.invariant ih

theorem Invariant.holders_le {jobs : List Job} {limit : Nat}
    (h : Invariant unit context jobs limit s) : s.holders ≤ limit := by
  have := h.permits
  omega

/-! ## Runs end -/

/-- The number of steps that are left: four for a job that waits, down to one for a result that
waits to be joined. -/
def work (s : Schedule) : Nat :=
  4 * s.waiting.length + 3 * s.spawned.length + 2 * s.running.length + s.ended.length

/-- **A step is one step less to do.** -/
theorem Step.work_eq (h : Step unit context s t) : s.work = t.work + 1 := by
  cases h <;> simp [work] <;> omega

/-- No run goes on for ever. -/
theorem not_forall_step (run : Nat → Schedule) : ¬∀ i, Step unit context (run i) (run (i + 1)) := by
  intro h
  have hwork : ∀ i, (run i).work + i = (run 0).work := by
    intro i
    induction i with
    | zero => rfl
    | succ i ih =>
      have := (h i).work_eq
      omega
  have := hwork ((run 0).work + 1)
  omega

theorem exists_begin (hs : s.spawned ≠ []) : ∃ t, Step unit context s t := by
  obtain ⟨waiting, place, permits, spawned, running, ended, joined⟩ := s
  obtain ⟨task, rest, rfl⟩ := List.exists_cons_of_ne_nil hs
  exact ⟨_, @Step.begin _ _ waiting place permits [] task rest running ended joined⟩

theorem exists_finish (hs : s.running ≠ []) : ∃ t, Step unit context s t := by
  obtain ⟨waiting, place, permits, spawned, running, ended, joined⟩ := s
  obtain ⟨task, rest, rfl⟩ := List.exists_cons_of_ne_nil hs
  exact ⟨_, @Step.finish _ _ waiting place permits spawned [] task rest ended joined⟩

theorem exists_join (hw : s.waiting = []) (hs : s.ended ≠ []) : ∃ t, Step unit context s t := by
  obtain ⟨waiting, place, permits, spawned, running, ended, joined⟩ := s
  obtain ⟨result, rest, rfl⟩ := List.exists_cons_of_ne_nil hs
  cases hw
  exact ⟨_, @Step.join _ _ place permits spawned running [] result rest joined⟩

theorem exists_spawn (hw : s.waiting ≠ []) (hp : 0 < s.permits) : ∃ t, Step unit context s t := by
  obtain ⟨waiting, place, permits, spawned, running, ended, joined⟩ := s
  obtain ⟨job, rest, rfl⟩ := List.exists_cons_of_ne_nil hw
  obtain ⟨left, rfl⟩ := Nat.exists_eq_add_of_lt hp
  exact ⟨_, by simpa using Step.spawn⟩

/-- **A run goes on until it is over.** A job that waits although nothing holds a permit can be
spawned, because there is at least one permit. -/
theorem Invariant.step_or_isOver {jobs : List Job} {limit : Nat}
    (h : Invariant unit context jobs limit s) (hpos : 1 ≤ limit) :
    s.IsOver ∨ ∃ t, Step unit context s t := by
  by_cases hspawned : s.spawned = []
  · by_cases hrunning : s.running = []
    · by_cases hwaiting : s.waiting = []
      · by_cases hended : s.ended = []
        · exact .inl ⟨hwaiting, hspawned, hrunning, hended⟩
        · exact .inr (exists_join hwaiting hended)
      · have hpermits : 0 < s.permits := by
          have := h.permits
          simp only [holders, hspawned, hrunning, List.length_nil] at this
          omega
        exact .inr (exists_spawn hwaiting hpermits)
    · exact .inr (exists_finish hrunning)
  · exact .inr (exists_begin hspawned)

/-- When all is over, every result was joined, each once. -/
theorem Invariant.joined_perm {jobs : List Job} {limit : Nat}
    (h : Invariant unit context jobs limit s) (hover : s.IsOver) :
    s.joined.Perm (resultsFrom unit context 0 jobs) := by
  have := h.results
  simpa [Schedule.results, hover.waiting, hover.spawned, hover.running, hover.ended,
    resultsFrom] using this

end

end Schedule

/-! ## The report does not depend on the order -/

theorem place_le_of_mem_resultsFrom {unit : CompilationUnit} {context : Context} {place : Nat}
    {jobs : List Job} {result : JobResult} (h : result ∈ resultsFrom unit context place jobs) :
    place ≤ result.place := by
  induction jobs generalizing place with
  | nil => cases h
  | cons job rest ih =>
    rcases List.mem_cons.1 h with rfl | h
    · exact Nat.le_refl place
    · exact Nat.le_of_succ_le (ih h)

theorem pairwise_resultsFrom (unit : CompilationUnit) (context : Context) (place : Nat)
    (jobs : List Job) :
    (resultsFrom unit context place jobs).Pairwise (·.place < ·.place) := by
  induction jobs generalizing place with
  | nil => exact List.Pairwise.nil
  | cons job rest ih =>
    refine List.pairwise_cons.2 ⟨fun result h => ?_, ih (place + 1)⟩
    exact place_le_of_mem_resultsFrom h

/-- Results with different places are put back in the order of their places. -/
theorem mergeSort_eq_of_perm {ended results : List JobResult} (h : ended.Perm results)
    (hplace : results.Pairwise (·.place < ·.place)) :
    ended.mergeSort (fun a b => a.place ≤ b.place) = results := by
  have hnodup : (results.map (·.place)).Nodup := List.pairwise_map.2 (hplace.imp Nat.ne_of_lt)
  have hperm := (List.mergeSort_perm ended fun a b => a.place ≤ b.place).trans h
  have hsorted : (ended.mergeSort fun a b => a.place ≤ b.place).Pairwise
      fun a b => decide (a.place ≤ b.place) := by
    refine List.pairwise_mergeSort (fun a b c => ?_) (fun a b => ?_) ended
    · simp only [decide_eq_true_eq]
      omega
    · simp only [Bool.or_eq_true, decide_eq_true_eq]
      omega
  refine List.Perm.eq_of_pairwise (fun a b ha hb hab hba => ?_) hsorted
    (hplace.imp fun hlt => decide_eq_true (Nat.le_of_lt hlt)) hperm
  rw [decide_eq_true_eq] at hab hba
  exact List.inj_on_of_nodup_map hnodup (hperm.subset ha) hb (Nat.le_antisymm hab hba)

namespace JobResult

/-- What a result says of a class. -/
def classOutcome (result : JobResult) : ClassOutcome :=
  ⟨result.job.generator.name, result.job.name, result.outcome⟩

theorem diagnostic?_eq (result : JobResult) :
    result.diagnostic? = result.classOutcome.diagnostic? := by
  obtain ⟨place, job, outcome⟩ := result
  cases outcome with
  | failed failure => cases h : failure.element? <;>
      simp [diagnostic?, failure?, classOutcome, ClassOutcome.diagnostic?, Diagnostic.ofFailure, h,
        Element.ofClass]
  | made file => rfl
  | nothing => rfl
  | aborted text => rfl

theorem event?_eq (result : JobResult) : result.event? = result.classOutcome.event? := by
  obtain ⟨place, job, outcome⟩ := result
  cases outcome <;> rfl

/-- Only a job without any answer leaves a text. -/
theorem abortion?_eq_none {result : JobResult} (h : result.outcome.answers) :
    result.abortion? = none := by
  obtain ⟨place, job, outcome⟩ := result
  cases outcome with
  | aborted text => cases h
  | _ => rfl

end JobResult

theorem map_classOutcome_resultsFrom (unit : CompilationUnit) (context : Context) (place : Nat)
    (jobs : List Job) :
    (resultsFrom unit context place jobs).map JobResult.classOutcome =
      jobs.map (Job.classOutcome unit context) := by
  induction jobs generalizing place with
  | nil => rfl
  | cons job rest ih => exact congrArg _ (ih (place + 1))

/-- **A report does not depend on the order in which results are joined**, if all jobs answer. -/
theorem Plan.report_eq_of_perm {plan : Plan} {ended results : List JobResult}
    (h : ended.Perm results) (hplace : results.Pairwise (·.place < ·.place))
    (hanswers : ∀ result ∈ results, result.outcome.answers) :
    plan.report ended = {
      files := GeneratedFile.sortByName
        ((results.map JobResult.classOutcome).filterMap ClassOutcome.file?)
      diagnostics := plan.strays ++
        (results.map JobResult.classOutcome).filterMap ClassOutcome.diagnostic?
      events := plan.events ++
        (results.map JobResult.classOutcome).filterMap ClassOutcome.event? } := by
  have hnone : ∀ result ∈ ended, result.abortion? = none := fun result hr =>
    JobResult.abortion?_eq_none (hanswers result (h.subset hr))
  have hdiagnostics : ended.filterMap JobResult.abortionDiagnostic? = [] := by
    refine List.filterMap_eq_nil_iff.2 fun result hr => ?_
    rw [JobResult.abortionDiagnostic?, hnone result hr, Option.map_none]
  have hevents : ended.filterMap JobResult.abortionEvent? = [] := by
    refine List.filterMap_eq_nil_iff.2 fun result hr => ?_
    rw [JobResult.abortionEvent?, hnone result hr, Option.map_none]
  simp only [report, mergeSort_eq_of_perm h hplace, hdiagnostics, hevents, List.append_nil,
    List.filterMap_map, funext JobResult.diagnostic?_eq, funext JobResult.event?_eq]
  rfl

namespace Pipeline

variable {pipeline : Pipeline} {unit : CompilationUnit}

theorem outcomes_eq_map (unit : CompilationUnit)
    (h : ∀ generator ∈ pipeline.generators, generator.Sound) :
    (resultsFrom unit (pipeline.context unit) 0 (pipeline.plan unit).jobs).map
      JobResult.classOutcome = pipeline.outcomes unit := by
  rw [map_classOutcome_resultsFrom, plan, Plan.outcomes_make unit _ h, outcomes]

/-- Joined results of all jobs, in whatever order, make the report of the work in sequence. -/
theorem report_eq_reference (h : ∀ generator ∈ pipeline.generators, generator.Sound)
    {joined : List JobResult}
    (hjoined : joined.Perm
      (resultsFrom unit (pipeline.context unit) 0 (pipeline.plan unit).jobs)) :
    (pipeline.plan unit).report joined = pipeline.reference unit := by
  have houtcomes := outcomes_eq_map unit h
  have hanswers : ∀ o ∈ pipeline.outcomes unit, o.outcome.answers := by
    intro o ho
    simp only [outcomes, List.mem_flatMap, List.mem_map, Generator.outcomes] at ho
    obtain ⟨generator, hg, made, hmade, rfl⟩ := ho
    split at hmade
    · obtain ⟨owner, -, rfl⟩ := List.mem_map.1 hmade
      exact (h generator hg).answers _ _
    · cases hmade
  obtain ⟨hstrays, hevents⟩ := Plan.strays_make unit (pipeline.context unit) h
  rw [Plan.report_eq_of_perm hjoined (pairwise_resultsFrom _ _ _ _), houtcomes]
  · simp only [plan, hstrays, hevents, List.nil_append, reference]
  · intro result hr
    exact hanswers _ (houtcomes ▸ List.mem_map_of_mem hr)

theorem completes_iff : pipeline.completes unit ↔ pipeline.settings.maxTasks ≤ taskLimit ∧
    (1 ≤ pipeline.settings.maxTasks ∨ (pipeline.plan unit).jobs = []) := by
  rw [completes, Bool.and_eq_true, Bool.or_eq_true, decide_eq_true_eq, decide_eq_true_eq,
    List.isEmpty_iff, Nat.one_le_iff_ne_zero]

theorem run?_eq_some_iff {report : Report} :
    pipeline.run? unit = some report ↔ pipeline.completes unit ∧
      report = (pipeline.plan unit).report
        (resultsFrom unit (pipeline.context unit) 0 (pipeline.plan unit).jobs) := by
  rw [run?]
  split
  · next h => simp only [h, true_and, Option.some.injEq, eq_comm, run, plan]
  · next h => simp only [h, false_and, reduceCtorEq]

theorem run?_eq_none_iff : pipeline.run? unit = none ↔ ¬pipeline.completes unit := by
  rw [run?]
  split <;> simp_all

theorem eq_report_of_run? {report : Report} (h : pipeline.run? unit = some report) :
    report = (pipeline.plan unit).report
      (resultsFrom unit (pipeline.context unit) 0 (pipeline.plan unit).jobs) :=
  (run?_eq_some_iff.1 h).2

/-- With at least one task there is a report if and only if the tasks can be kept count of. -/
theorem exists_run?_iff (hpos : 1 ≤ pipeline.settings.maxTasks) :
    (∃ report, pipeline.run? unit = some report) ↔ pipeline.settings.maxTasks ≤ taskLimit := by
  simp only [run?_eq_some_iff, completes_iff, hpos, true_or, and_true, exists_and_left,
    exists_eq]

/-- A run that ends, ends with the report of the work in sequence. -/
theorem eq_reference_of_run? (h : ∀ generator ∈ pipeline.generators, generator.Sound)
    {report : Report} (hreport : pipeline.run? unit = some report) :
    report = pipeline.reference unit := by
  rw [eq_report_of_run? hreport]
  exact report_eq_reference h (List.Perm.refl _)

/-- A run with at least one task ends with the report of the work in sequence. -/
theorem run?_eq_reference (unit : CompilationUnit)
    (h : ∀ generator ∈ pipeline.generators, generator.Sound)
    (hpos : 1 ≤ pipeline.settings.maxTasks) (hmax : pipeline.settings.maxTasks ≤ taskLimit) :
    pipeline.run? unit = some (pipeline.reference unit) :=
  run?_eq_some_iff.2 ⟨completes_iff.2 ⟨hmax, .inl hpos⟩,
    (report_eq_reference h (List.Perm.refl _)).symm⟩

end Pipeline

/-! ## Schedules of a pipeline -/

namespace Setup

variable {setup : Setup}

/-- The generators of a pipeline are standard ones, unless others are added. -/
theorem generators_sublist_builtin (hsetup : setup.furtherGenerators = []) (settings : Settings) :
    (setup.pipeline settings).generators.Sublist Generator.builtin := by
  simp only [pipeline, hsetup, List.append_nil]
  split
  · exact List.filter_sublist
  · exact List.nil_sublist _

theorem sound_of_mem_generators (hsetup : setup.furtherGenerators = [])
    {settings : Settings} {generator : Generator}
    (h : generator ∈ (setup.pipeline settings).generators) : generator.Sound :=
  Generator.sound_of_mem_builtin ((generators_sublist_builtin hsetup settings).subset h)

/-- A run of standard generators with at least one task ends with the report of the work in
sequence. -/
theorem run?_eq (setup : Setup) (hsetup : setup.furtherGenerators = []) {settings : Settings}
    (hpos : 1 ≤ settings.maxTasks) (hmax : settings.maxTasks ≤ taskLimit) (unit : CompilationUnit) :
    (setup.pipeline settings).run? unit = some ((setup.pipeline settings).reference unit) :=
  Pipeline.run?_eq_reference unit (fun _ => sound_of_mem_generators hsetup) hpos hmax

theorem eq_reference {setup : Setup} (hsetup : setup.furtherGenerators = []) {settings : Settings}
    {unit : CompilationUnit} {report : Report}
    (h : (setup.pipeline settings).run? unit = some report) :
    report = (setup.pipeline settings).reference unit :=
  Pipeline.eq_reference_of_run? (fun _ => sound_of_mem_generators hsetup) h

end Setup

/-- **Whatever the order in which jobs are spawned, begin, finish and are joined, a run ends with
the report of the work in sequence**, and never do more jobs hold a permit than there are permits.
Every outcome is joined once, the files are sorted stably, and this is the report of the run that
does one job after the other. -/
theorem schedule_ends_with_reference (settings : Settings) (hierarchy : Option Hierarchy)
    (unit : CompilationUnit) (hpos : 1 ≤ settings.maxTasks)
    (hmax : settings.maxTasks ≤ 2305843009213693951) :
    let pipeline := ({ hierarchy := hierarchy } : Setup).pipeline settings
    let context := pipeline.context unit
    let Reachable := Schedule.Reachable unit context (pipeline.plan unit).jobs settings.maxTasks
    let outcomes := pipeline.outcomes unit
    (∀ s, Reachable s → s.holders ≤ settings.maxTasks) ∧
    (∀ s, Reachable s → s.IsOver ∨ ∃ t, Schedule.Step unit context s t) ∧
    (∀ run : Nat → Schedule, ¬∀ i, Schedule.Step unit context (run i) (run (i + 1))) ∧
    (∀ s, Reachable s → s.IsOver →
      (pipeline.plan unit).report s.joined = pipeline.reference unit ∧
      (s.joined.map JobResult.classOutcome).Perm outcomes) ∧
    GeneratedFile.IsStableSort (outcomes.filterMap ClassOutcome.file?)
      (pipeline.reference unit).files ∧
    pipeline.run? unit = some (pipeline.reference unit) := by
  intro pipeline context Reachable outcomes
  have hsound : ∀ generator ∈ pipeline.generators, generator.Sound :=
    fun generator => Setup.sound_of_mem_generators rfl
  refine ⟨fun s hs => hs.invariant.holders_le, fun s hs => hs.invariant.step_or_isOver hpos,
    Schedule.not_forall_step, fun s hs hover => ?_, GeneratedFile.isStableSort_sortByName _, ?_⟩
  · have hjoined := hs.invariant.joined_perm hover
    refine ⟨Pipeline.report_eq_reference hsound hjoined, ?_⟩
    have := hjoined.map JobResult.classOutcome
    rwa [Pipeline.outcomes_eq_map unit hsound] at this
  · exact Pipeline.run?_eq_reference unit hsound hpos hmax

/-- A class whose members are injected in a scope. -/
def injectedNet : ClassDeclaration :=
  (ClassDeclaration.ofName "app" "Net").annotate
    ⟨({} : Schema).autoWire, [⟨none, .classLiteral ⟨"app.Scope"⟩⟩], []⟩

/-- A unit that declares the same class twice. -/
def twinUnit : CompilationUnit :=
  (CompilationUnit.empty.withClass injectedNet).withClass injectedNet

/-- Settings for injection only, two jobs at once. -/
def pairSettings : Settings where
  maxTasks := 2
  toggles := { bindings := false, provisions := false }

/-- Two equal classes and a third one, whose marker has no scope, may end and be joined in the
opposite order. The report has the files of both equal classes and the failure of the third one. -/
theorem schedule_ends_with_reference_twins :
    let pipeline := ({} : Setup).pipeline pairSettings
    let login := (ClassDeclaration.ofName "app" "Login").annotate (.ofName ({} : Schema).autoWire)
    let unit := twinUnit.withClass login
    let file := (autoWireFile injectedNet ⟨"app.Scope"⟩ {}).toGenerated
    1 ≤ pairSettings.maxTasks ∧ pairSettings.maxTasks ≤ 2305843009213693951 ∧
    ∃ s, Schedule.Reachable unit (pipeline.context unit) (pipeline.plan unit).jobs 2 s ∧
      s.IsOver ∧ s.joined.map (·.place) = [2, 1, 0] ∧
      (pipeline.plan unit).report s.joined = pipeline.reference unit ∧
      (pipeline.reference unit).files = [file, file] ∧
      (pipeline.reference unit).diagnostics.map (·.element) = [some (.ofClass ⟨"app.Login"⟩)] := by
  intro pipeline login unit file
  let context := pipeline.context unit
  let first : Nat × Job := (0, ⟨.autoWire, [0], injectedNet.name⟩)
  let second : Nat × Job := (1, ⟨.autoWire, [1], injectedNet.name⟩)
  let third : Nat × Job := (2, ⟨.autoWire, [2], login.name⟩)
  let result := JobResult.ofTask unit context
  let s : Schedule := ⟨[], 3, 2, [], [], [], [result third, result second, result first]⟩
  -- The third job is spawned with the permit that the second one gives back.
  have hspawned : Schedule.Reachable unit context (pipeline.plan unit).jobs 2
      ⟨[], 3, 0, [first, third], [], [result second], []⟩ :=
    .tail (.tail (.tail (.tail (.tail .refl .spawn) .spawn)
      (@Schedule.Step.begin _ _ [third.2] 2 0 [first] second [] [] [] []))
      (@Schedule.Step.finish _ _ [third.2] 2 0 [first] [] second [] [] []))
      (@Schedule.Step.spawn _ _ third.2 [] 2 0 [first] [] [result second] [])
  have hended : Schedule.Reachable unit context (pipeline.plan unit).jobs 2
      ⟨[], 3, 2, [], [], [result second, result third, result first], []⟩ :=
    .tail (.tail (.tail (.tail hspawned
      (@Schedule.Step.begin _ _ [] 3 0 [] first [third] [] [result second] []))
      (@Schedule.Step.begin _ _ [] 3 0 [] third [] [first] [result second] []))
      (@Schedule.Step.finish _ _ [] 3 0 [] [first] third [] [result second] []))
      (@Schedule.Step.finish _ _ [] 3 1 [] [] first [] [result second, result third] [])
  have hreach : Schedule.Reachable unit context (pipeline.plan unit).jobs 2 s :=
    .tail (.tail (.tail hended
      (@Schedule.Step.join _ _ 3 2 [] [] [result second] (result third) [result first] []))
      (@Schedule.Step.join _ _ 3 2 [] [] [] (result second) [result first] [result third]))
      (@Schedule.Step.join _ _ 3 2 [] [] [] (result first) [] [result third, result second])
  have hover : s.IsOver := ⟨rfl, rfl, rfl, rfl⟩
  have hends := schedule_ends_with_reference pairSettings none unit (by decide) (by decide)
  have hfiles : (pipeline.reference unit).files = [file, file] := by
    change GeneratedFile.sortByName [file, file] = _
    exact List.mergeSort_of_pairwise (by decide)
  exact ⟨by decide, by decide, s, hreach, hover, rfl, (hends.2.2.2.1 s hreach hover).1, hfiles, rfl⟩

end Wiring
