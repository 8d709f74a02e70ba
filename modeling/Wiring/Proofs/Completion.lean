import Wiring.Proofs.FilesApart

/-!
# Runs that complete

Accepted settings allow at least one task, so that no run waits for a permit for ever. But they may
allow more tasks than can be kept count of, and then there is no report.

* `Schedule.doNext`, `Schedule.joinAll`, `Schedule.exists_inSequence`: one job after the other is one
  of the orders of a run;
* `Schedule.exists_isOver_iff`, `Pipeline.completes_iff_exists_isOver`: without permits no job is ever
  spawned, and a run has a report if it can be over;
* `Settings.one_le_maxTasks`, `Settings.validate_withTasks`: the numbers of tasks that are accepted;
* **`run_completes_iff`**: which accepted settings can be run, and that their runs are over at last.
-/

namespace Wiring

/-! ## One job after the other -/

namespace Schedule

variable (unit : CompilationUnit) (context : Context)

/-- The next job is spawned, begins and finishes before any other one is spawned. -/
theorem doNext (job : Job) (waiting : List Job) (place permits : Nat) (ended : List JobResult) :
    Relation.ReflTransGen (Step unit context)
      ⟨job :: waiting, place, permits + 1, [], [], ended, []⟩
      ⟨waiting, place + 1, permits + 1, [], [],
        ended ++ [JobResult.ofTask unit context (place, job)], []⟩ :=
  .tail (.tail (.tail .refl .spawn)
    (@Step.begin _ _ waiting (place + 1) permits [] (place, job) [] [] ended []))
    (@Step.finish _ _ waiting (place + 1) permits [] [] (place, job) [] ended [])

theorem doAll (waiting : List Job) (place permits : Nat) (ended : List JobResult) :
    Relation.ReflTransGen (Step unit context)
      ⟨waiting, place, permits + 1, [], [], ended, []⟩
      ⟨[], place + waiting.length, permits + 1, [], [],
        ended ++ resultsFrom unit context place waiting, []⟩ := by
  induction waiting generalizing place ended with
  | nil => simpa [resultsFrom] using Relation.ReflTransGen.refl
  | cons job rest ih =>
    have hrest := ih (place + 1) (ended ++ [JobResult.ofTask unit context (place, job)])
    rw [List.append_assoc, Nat.add_assoc, Nat.add_comm 1] at hrest
    exact (doNext unit context job rest place permits ended).trans hrest

/-- Results are joined in the order in which the jobs finished. -/
theorem joinAll (place permits : Nat) (ended joined : List JobResult) :
    Relation.ReflTransGen (Step unit context) ⟨[], place, permits, [], [], ended, joined⟩
      ⟨[], place, permits, [], [], [], joined ++ ended⟩ := by
  induction ended generalizing joined with
  | nil => simpa using Relation.ReflTransGen.refl
  | cons result rest ih =>
    have hrest := ih (joined ++ [result])
    rw [List.append_assoc] at hrest
    exact .head (@Step.join _ _ place permits [] [] [] result rest joined) hrest

/-- **One job after the other is one of the orders of a run**, if there is a permit at all. -/
theorem exists_inSequence (jobs : List Job) {limit : Nat} (h : 1 ≤ limit) :
    ∃ s, Reachable unit context jobs limit s ∧ s.IsOver ∧
      s.joined = resultsFrom unit context 0 jobs := by
  obtain ⟨permits, rfl⟩ := Nat.exists_eq_add_of_le' h
  have hdone := doAll unit context jobs 0 permits []
  have hjoined := joinAll unit context (0 + jobs.length) (permits + 1)
    (resultsFrom unit context 0 jobs) []
  exact ⟨_, hdone.trans hjoined, ⟨rfl, rfl, rfl, rfl⟩, rfl⟩

/-! ## Runs without permits -/

variable {unit context} {jobs : List Job} {s : Schedule}

/-- Without permits no job is spawned, and before that there is nothing else to do. -/
theorem not_step_start (hjobs : jobs ≠ []) : ¬Step unit context (start jobs 0) s := by
  intro h
  generalize hstart : start jobs 0 = t at h
  cases h <;> simp_all [start]

theorem eq_start_of_reachable (hjobs : jobs ≠ []) (h : Reachable unit context jobs 0 s) :
    s = start jobs 0 := by
  induction h with
  | refl => rfl
  | tail _ hstep ih => exact absurd (ih ▸ hstep) (not_step_start hjobs)

/-- **A run can be over if and only if there is a permit or nothing to do.** -/
theorem exists_isOver_iff {limit : Nat} :
    (∃ s, Reachable unit context jobs limit s ∧ s.IsOver) ↔ 1 ≤ limit ∨ jobs = [] := by
  constructor
  · rintro ⟨s, hs, hover⟩
    by_contra hnot
    obtain ⟨hlimit, hjobs⟩ := not_or.1 hnot
    obtain rfl : limit = 0 := by omega
    rw [eq_start_of_reachable hjobs hs] at hover
    exact hjobs hover.waiting
  · rintro (hlimit | rfl)
    · obtain ⟨s, hs, hover, -⟩ := exists_inSequence unit context jobs hlimit
      exact ⟨s, hs, hover⟩
    · exact ⟨start [] limit, .refl, ⟨rfl, rfl, rfl, rfl⟩⟩

end Schedule

/-! ## Accepted numbers of tasks -/

namespace Settings

variable {settings : Settings}

theorem one_le_maxTasks (h : settings.validate = .ok ()) : 1 ≤ settings.maxTasks := by
  have hproblems := problems_eq_nil h
  simp only [problems, List.append_eq_nil_iff] at hproblems
  obtain ⟨⟨-, htasks⟩, -⟩ := hproblems
  by_contra hnone
  rw [if_pos (by omega)] at htasks
  cases htasks

/-- Every number of tasks but zero is accepted. -/
theorem validate_withTasks (h : settings.validate = .ok ()) {tasks : Nat} (htasks : tasks ≠ 0) :
    ({ settings with maxTasks := tasks } : Settings).validate = .ok () := by
  have hproblems := problems_eq_nil h
  apply validate_of_problems_eq_nil
  simp only [problems, List.append_eq_nil_iff] at hproblems ⊢
  obtain ⟨⟨hnames, -⟩, hextension⟩ := hproblems
  exact ⟨⟨hnames, if_neg htasks⟩, hextension⟩

end Settings

/-! ## Runs -/

namespace Pipeline

variable {pipeline : Pipeline} {unit : CompilationUnit}

/-- **A run ends with a report if and only if its tasks can be kept count of and it can be over.** -/
theorem completes_iff_exists_isOver :
    pipeline.completes unit ↔ pipeline.settings.maxTasks ≤ taskLimit ∧
      ∃ s, Schedule.Reachable unit (pipeline.context unit) (pipeline.plan unit).jobs
        pipeline.settings.maxTasks s ∧ s.IsOver := by
  rw [completes_iff, Schedule.exists_isOver_iff]

end Pipeline

/-- **Accepted settings can be run up to a number of tasks**, whatever the unit, the further
generators and the hierarchy, and no further: beyond it a run gives no report. A run that gives one
goes on until it is over and does not go on for ever, in whatever order its jobs are done, and the
report is that of one of the orders, and of all of them without further generators. The numbers of
tasks that are accepted have no bound. -/
theorem run_completes_iff (setup : Setup) (settings : Settings)
    (hsettings : settings.validate = .ok ()) (unit : CompilationUnit) :
    let pipeline := setup.pipeline settings
    let context := pipeline.context unit
    let Reachable := Schedule.Reachable unit context (pipeline.plan unit).jobs settings.maxTasks
    ((∃ report, pipeline.run? unit = some report) ↔ settings.maxTasks ≤ 2305843009213693951) ∧
    (∀ report, pipeline.run? unit = some report →
      (∀ s, Reachable s → s.IsOver ∨ ∃ t, Schedule.Step unit context s t) ∧
      (∀ run : Nat → Schedule, ¬∀ i, Schedule.Step unit context (run i) (run (i + 1))) ∧
      (∃ s, Reachable s ∧ s.IsOver ∧ (pipeline.plan unit).report s.joined = report) ∧
      (setup.furtherGenerators = [] →
        ∀ s, Reachable s → s.IsOver → (pipeline.plan unit).report s.joined = report)) ∧
    ∀ tasks, tasks ≠ 0 → ({ settings with maxTasks := tasks } : Settings).validate = .ok () := by
  intro pipeline context Reachable
  have hpos := Settings.one_le_maxTasks hsettings
  refine ⟨Pipeline.exists_run?_iff hpos, fun report hreport => ⟨?_, Schedule.not_forall_step, ?_, ?_⟩,
    fun tasks => Settings.validate_withTasks hsettings⟩
  · exact fun s hs => hs.invariant.step_or_isOver hpos
  · obtain ⟨s, hs, hover, hjoined⟩ :=
      Schedule.exists_inSequence unit context (pipeline.plan unit).jobs hpos
    refine ⟨s, hs, hover, ?_⟩
    rw [hjoined, Pipeline.eq_report_of_run? hreport]
  · intro hsetup s hs hover
    have hsound : ∀ generator ∈ pipeline.generators, generator.Sound :=
      fun generator => Setup.sound_of_mem_generators hsetup
    rw [Setup.eq_reference hsetup hreport]
    exact Pipeline.report_eq_reference hsound (hs.invariant.joined_perm hover)

/-- Settings with the greatest number of tasks that can be kept count of. -/
def mostTasks : Settings where
  maxTasks := 2305843009213693951

/-- The greatest number of tasks can be run. -/
theorem run_completes_iff_mostTasks :
    let pipeline := ({} : Setup).pipeline mostTasks
    mostTasks.validate = .ok () ∧
      ∃ report, pipeline.run? twinUnit = some report ∧
        ∃ s, Schedule.Reachable twinUnit (pipeline.context twinUnit) (pipeline.plan twinUnit).jobs
            2305843009213693951 s ∧
          s.IsOver ∧ (pipeline.plan twinUnit).report s.joined = report := by
  intro pipeline
  have hvalid : mostTasks.validate = .ok () :=
    Settings.validate_withTasks Settings.validate_default (by decide)
  obtain ⟨hstarts, hends, -⟩ := run_completes_iff {} mostTasks hvalid twinUnit
  obtain ⟨report, hreport⟩ := hstarts.2 (Nat.le_refl _)
  obtain ⟨-, -, hreached, -⟩ := hends report hreport
  exact ⟨hvalid, report, hreport, hreached⟩

/-- Settings with one task more than can be kept count of. -/
def tooManyTasks : Settings where
  maxTasks := 2305843009213693952

/-- **Accepted settings may not be runnable**: with one task more there is no report, not even of a
unit without classes, although the number fits in a word of 64 bits. -/
theorem tooManyTasks_without_report :
    tooManyTasks.validate = .ok () ∧ tooManyTasks.maxTasks < 18446744073709551616 ∧
      (({} : Setup).pipeline tooManyTasks).run? .empty = none :=
  ⟨Settings.validate_withTasks Settings.validate_default (by decide), by decide,
    if_neg (by decide)⟩

end Wiring
