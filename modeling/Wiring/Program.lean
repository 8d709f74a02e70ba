import Wiring.CommandLine
import Wiring.Corpus.Decoder
import Wiring.Pipeline

/-!
# The program

Read a corpus, run all generators, and write the files that come of it. The program ends with an
error if there is any diagnostic.

* `ProgramResult`: the status, what is logged and what is told in the end;
* `Options.execute`, `program`: the program for options, and for a command line.
-/

namespace Wiring

/-- How the program ends: its status, the reason if it could not do its work, and the events that
are shown, either as JSON values or as lines. -/
structure ProgramResult where
  status : Nat
  failure : Option String := none
  events : List LogEvent := []
  json : Bool := false

namespace ProgramResult

/-- The status if all went well. -/
def success : Nat := 0

/-- The status if the work could not be done, or not all of it. -/
def failed : Nat := 1

/-- The status of a command line that is not understood. -/
def misused : Nat := 2

/-- The status of a run that broke off. -/
def broken : Nat := 101

end ProgramResult

/-- The text that help shows. -/
def usage : String :=
  "依赖注入装配代码生成器\n\n" ++
  "Usage: codegen [OPTIONS] --corpus <CORPUS>\n\n" ++
  "Options:\n" ++
  "  -i, --corpus <CORPUS>        声明语料（JSON）路径\n" ++
  "  -o, --output <OUTPUT>        生成文件输出目录 [default: build/generated/codegen]\n" ++
  "  -c, --config <CONFIG>        生成器配置文件路径\n" ++
  "      --log-level <LOG_LEVEL>  日志级别 [default: info]\n" ++
  "      --json-logs              以 JSON 格式输出日志\n" ++
  "      --dry-run                只检查，不写出文件\n" ++
  "  -h, --help                   Print help\n"

namespace Options

/-- What is shown of events. A level that is unknown counts as the usual one. -/
def logging (options : Options) : LogOptions :=
  { (if options.jsonLogs then LogOptions.server else LogOptions.standard) with
    level := (LogLevel.ofName? options.logLevel).getD .info }

/-- What the pipeline is made from. -/
def setup (options : Options) : Setup where
  source := { file := options.config }
  logging := some options.logging

/-- The result with the events that the options show. -/
def result (options : Options) (status : Nat) (failure : Option String) (events : List LogEvent) :
    ProgramResult where
  status := status
  failure := failure
  events := events.filter fun event => options.logging.level.shows event.level
  json := options.logging.json

/-- The result of a run: all that was told on the way, then the diagnostics and the summary. -/
def resultOfReport (options : Options) (events : List LogEvent) (report : Report) :
    ProgramResult :=
  options.result (if report.isSuccess then ProgramResult.success else ProgramResult.failed) none
    (events ++ report.events ++ report.diagnostics.map Diagnostic.event ++
      [{ level := .info, message := report.summary }])

section

variable {m : Type → Type} [Monad m]

/-- The unit in a file. -/
def readCorpus (files : FileSystem m) (path : String) :
    m (Except PipelineError CompilationUnit) := do
  match ← files.read path with
  | none => return .error (.corpusRead path)
  | some document =>
    match CompilationUnit.read? document with
    | none => return .error (.corpusParse path)
    | some unit => return .ok unit

/-- Run a pipeline on a unit, and write the files unless it is a dry run. -/
def runPipeline (options : Options) (files : FileSystem m) (pipeline : Pipeline)
    (unit : CompilationUnit) : m (Option Report) :=
  if options.dryRun then pure (pipeline.run? unit)
  else
    pipeline.runAndWrite unit (folderWriter files options.output pipeline.settings.extension)

/-- The program, given the variables of the environment. -/
def execute (options : Options) (files : FileSystem m) (vars : List (String × String)) :
    m ProgramResult := do
  let (events, built) ← options.setup.build files vars false
  match built with
  | .error (.config .noSuchPlace) => return options.result ProgramResult.broken none events
  | .error _ => return options.result ProgramResult.failed (some "构建生成流程失败") events
  | .ok pipeline =>
    match ← readCorpus files options.corpus with
    | .error _ =>
      return options.result ProgramResult.failed (some ("无法加载声明语料 " ++ options.corpus)) events
    | .ok unit =>
      match ← runPipeline options files pipeline unit with
      | none => return options.result ProgramResult.broken none events
      | some report => return options.resultOfReport events report

end

end Options

/-- The program for a command line. -/
def program {m : Type → Type} [Monad m] (arguments : List String) (files : FileSystem m)
    (vars : List (String × String)) : m ProgramResult :=
  match parseArguments arguments with
  | .help => pure { status := ProgramResult.success }
  | .misuse => pure { status := ProgramResult.misused }
  | .run options => options.execute files vars

end Wiring
