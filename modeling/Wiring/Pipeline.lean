import Wiring.Run
import Wiring.Settings.Load
import Wiring.Writer

/-!
# Pipelines

A pipeline is made once from settings and generators and runs on any number of units.

* `PipelineError`: why a pipeline cannot be made, or a corpus cannot be read;
* `Pipeline`, `Pipeline.completes`, `Pipeline.run?`, `Pipeline.runAndWrite`;
* `Setup`, `Setup.build`: what a pipeline is made from, and making it.
-/

namespace Wiring

/-- Why a run cannot start or go on. -/
inductive PipelineError where
  | config (error : SettingsError)
  | corpusRead (path : String)
  | corpusParse (path : String)
  | generation (failure : Failure)
  | logging
  deriving DecidableEq

/-- The text of an error. -/
def PipelineError.message : PipelineError → String
  | .config error => "生成器配置错误: " ++ error.message
  | .corpusRead path => "读取声明语料失败: " ++ path
  | .corpusParse path => "解析声明语料失败: " ++ path
  | .generation failure => "生成失败: " ++ failure.message
  | .logging => "日志初始化失败"

/-- Settings and generators, and a hierarchy if it is not the one that units declare. -/
structure Pipeline where
  settings : Settings
  generators : List Generator
  hierarchy : Option Hierarchy

/-- The greatest number of tasks that can be kept count of. -/
def taskLimit : Nat := Nat.pow 2 61 - 1

namespace Pipeline

/-- The context for a unit. -/
def context (pipeline : Pipeline) (unit : CompilationUnit) : Context :=
  pipeline.settings.toContext (pipeline.hierarchy.getD (.ofUnit unit))

/-- The plan of a run on a unit. -/
def plan (pipeline : Pipeline) (unit : CompilationUnit) : Plan :=
  .make pipeline.generators unit (pipeline.context unit)

/-- Whether a run on a unit ends with a report: the tasks that are allowed can be kept count of, and
if none is allowed at all, there is no job that would wait for ever. -/
def completes (pipeline : Pipeline) (unit : CompilationUnit) : Bool :=
  pipeline.settings.maxTasks ≤ taskLimit &&
    (pipeline.settings.maxTasks ≠ 0 || (pipeline.plan unit).jobs.isEmpty)

/-- Run on a unit. There is no report if more tasks are allowed than can be kept count of, or if a
job waits for ever. -/
def run? (pipeline : Pipeline) (unit : CompilationUnit) : Option Report :=
  if pipeline.completes unit then
    some (Wiring.run pipeline.generators unit (pipeline.context unit))
  else none

/-- Run on a unit and write all files of the report. -/
def runAndWrite {m : Type → Type} [Monad m] (pipeline : Pipeline) (unit : CompilationUnit)
    (writer : Writer m) : m (Option Report) := do
  match pipeline.run? unit with
  | none => return none
  | some report => return some (← report.writeTo writer)

end Pipeline

/-! ## Making a pipeline -/

/-- What a pipeline is made from. Given settings win over those that can be loaded. -/
structure Setup where
  settings : Option Settings := none
  source : SettingsSource := {}
  standardGenerators : Bool := true
  furtherGenerators : List Generator := []
  hierarchy : Option Hierarchy := none
  logging : Option LogOptions := none

namespace Setup

/-- The pipeline with the given settings. Only standard generators can be switched off, and they
come first. -/
def pipeline (setup : Setup) (settings : Settings) : Pipeline where
  settings := settings
  generators :=
    (if setup.standardGenerators then
      Generator.builtin.filter (settings.toggles.isEnabled ·.name)
     else []) ++ setup.furtherGenerators
  hierarchy := setup.hierarchy

/-- Make a pipeline, with the events on the way. Logging can be set up only if this has not been
done before. -/
def build {m : Type → Type} [Monad m] (setup : Setup) (files : FileSystem m)
    (vars : List (String × String)) (loggingIsUp : Bool) :
    m (List LogEvent × Except PipelineError Pipeline) := do
  if setup.logging.isSome && loggingIsUp then return ([], .error .logging)
  let settings ← match setup.settings with
    | some settings => pure (.ok settings)
    | none => setup.source.read files vars
  match settings with
  | .error error => return (error.events, .error (.config error))
  | .ok settings =>
    match settings.validate with
    | .error error => return (settings.warnings, .error (.config error))
    | .ok () => return (settings.warnings, .ok (setup.pipeline settings))

end Setup

end Wiring
