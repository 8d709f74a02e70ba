import Wiring.Report
import Wiring.Settings.Basic

/-!
# Runs

A run has one job for each generator and each class that the generator picks. Jobs depend on nothing
but the unit and the context, so they may be done at the same time and end in any order; the report
is put together by their places in the plan.

* `Job`, `Plan`, `Plan.make`: the jobs of a run;
* `Plan.report`: the report of results, in whatever order the jobs ended;
* `run`: the report of a run in which jobs are done one after the other.
-/

namespace Wiring

/-- The work of a generator on the class that a path leads to. -/
structure Job where
  generator : Generator
  path : List Nat
  name : QualifiedName

namespace Job

/-- Do a job. -/
def outcome (job : Job) (unit : CompilationUnit) (context : Context) : Outcome :=
  match unit.classAt? job.path with
  | some c => job.generator.generate c context
  | none => .failed (.taskFailed ("无法定位所属类 " ++ job.name.text))

end Job

/-! ## Plans -/

/-- The jobs of a run in order, and the diagnostics for classes that do not belong to the unit. -/
structure Plan where
  jobs : List Job
  strays : List Diagnostic
  events : List LogEvent

namespace Plan

/-- The diagnostic for a class that does not belong to the unit. -/
def strayDiagnostic (generator : Generator) (c : ClassDeclaration) : Diagnostic :=
  .ofFailure generator.name (.taskFailed ("所属类 " ++ c.name.text ++ " 不在编译单元中"))
    (some c.element)

/-- The event for a class that does not belong to the unit. -/
def strayEvent (generator : Generator) (c : ClassDeclaration) : LogEvent where
  level := .warn
  message := "生成器 " ++ generator.name ++ " 返回了不属于编译单元的类 " ++ c.name.text ++ "，已忽略"

/-- The job for a class of the unit. -/
def job? (generator : Generator) : Owner → Option Job
  | .declared path c => some ⟨generator, path, c.name⟩
  | .foreign _ => none

/-- The class that does not belong to the unit. -/
def stray? : Owner → Option ClassDeclaration
  | .declared _ _ => none
  | .foreign c => some c

/-- The plan of a run: generator by generator, class by class. -/
def make (generators : List Generator) (unit : CompilationUnit) (context : Context) : Plan :=
  let applicable := generators.filter (·.isApplicable context)
  let strays := applicable.flatMap fun generator =>
    ((generator.owners unit context).filterMap stray?).map (generator, ·)
  { jobs := applicable.flatMap fun generator =>
      (generator.owners unit context).filterMap (job? generator)
    strays := strays.map fun stray => strayDiagnostic stray.1 stray.2
    events := strays.map fun stray => strayEvent stray.1 stray.2 }

end Plan

/-! ## Results -/

/-- What a job came to, with its place in the plan. -/
structure JobResult where
  place : Nat
  job : Job
  outcome : Outcome

namespace JobResult

/-- The file that a job made. -/
def file? (result : JobResult) : Option GeneratedFile :=
  match result.outcome with
  | .made file => some file
  | _ => none

/-- The failure of a job. -/
def failure? (result : JobResult) : Option Failure :=
  match result.outcome with
  | .failed failure => some failure
  | _ => none

/-- The diagnostic of a job that failed, at the class if the failure names no element. -/
def diagnostic? (result : JobResult) : Option Diagnostic :=
  result.failure?.map fun failure =>
    .ofFailure result.job.generator.name failure (some (.ofClass result.job.name))

/-- The event of a job that failed. -/
def event? (result : JobResult) : Option LogEvent :=
  result.failure?.map fun failure =>
    { level := .warn
      message := result.job.generator.name ++ " 处理 " ++ result.job.name.text ++ " 失败: " ++
        failure.message }

/-- The text that a job left which ended without any answer. -/
def abortion? (result : JobResult) : Option String :=
  match result.outcome with
  | .aborted text => some text
  | _ => none

/-- The diagnostic of a job that ended without any answer, which belongs to the run as a whole. -/
def abortionDiagnostic? (result : JobResult) : Option Diagnostic :=
  result.abortion?.map fun text => .ofFailure "pipeline" (.taskFailed text) none

/-- The event of a job that ended without any answer. -/
def abortionEvent? (result : JobResult) : Option LogEvent :=
  result.abortion?.map fun text => { level := .error, message := "生成任务异常终止: " ++ text }

end JobResult

/-- The report of results in the order in which the jobs ended. Jobs without any answer are reported
in that order and before the failures, all else in the order of the plan. -/
def Plan.report (plan : Plan) (ended : List JobResult) : Report :=
  let results := ended.mergeSort fun a b => a.place ≤ b.place
  { files := GeneratedFile.sortByName (results.filterMap JobResult.file?)
    diagnostics := plan.strays ++ ended.filterMap JobResult.abortionDiagnostic? ++
      results.filterMap JobResult.diagnostic?
    events := plan.events ++ ended.filterMap JobResult.abortionEvent? ++
      results.filterMap JobResult.event? }

/-- The results of jobs that are done one after the other, of which the first has the given place.
-/
def resultsFrom (unit : CompilationUnit) (context : Context) (place : Nat) :
    List Job → List JobResult
  | [] => []
  | job :: rest =>
    ⟨place, job, job.outcome unit context⟩ :: resultsFrom unit context (place + 1) rest

/-- The report of a run. -/
def run (generators : List Generator) (unit : CompilationUnit) (context : Context) : Report :=
  let plan := Plan.make generators unit context
  plan.report (resultsFrom unit context 0 plan.jobs)

end Wiring
