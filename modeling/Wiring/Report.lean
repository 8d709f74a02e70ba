import Wiring.Generator
import Wiring.Log

/-!
# Reports

What comes of a run: files, diagnostics for what could not be generated or written, and the paths
that were written.

* `Diagnostic`, `Diagnostic.ofFailure`;
* `Report`, `Report.isSuccess`, `Report.file?`, `Report.diagnosticsFor`.
-/

namespace Wiring

/-- What went wrong, in which generator or writer, at which element. -/
structure Diagnostic where
  generator : String
  element : Option Element
  message : String
  deriving DecidableEq

namespace Diagnostic

/-- The diagnostic of a failure. If the failure names no element, it is at the given one. -/
def ofFailure (generator : String) (failure : Failure) (fallback : Option Element) :
    Diagnostic where
  generator := generator
  element := failure.element?.or fallback
  message := failure.message

/-- The text of a diagnostic. -/
def display (diagnostic : Diagnostic) : String :=
  "[" ++ diagnostic.generator ++ "] " ++ diagnostic.message

/-- The event of a diagnostic. -/
def event (diagnostic : Diagnostic) : LogEvent := ⟨.error, diagnostic.display, diagnostic.element⟩

end Diagnostic

/-- What comes of a run, with the events on the way. -/
structure Report where
  files : List GeneratedFile := []
  diagnostics : List Diagnostic := []
  written : List String := []
  events : List LogEvent := []

namespace Report

/-- Whether nothing went wrong. -/
def isSuccess (report : Report) : Bool := report.diagnostics.isEmpty

/-- The first file of a name. -/
def file? (report : Report) (name : String) : Option GeneratedFile :=
  report.files.find? (·.fileName = name)

/-- The diagnostics at an element. -/
def diagnosticsFor (report : Report) (element : Element) : List Diagnostic :=
  report.diagnostics.filter (·.element = some element)

/-- The line that sums up a report. -/
def summary (report : Report) : String :=
  "生成文件 " ++ Nat.repr report.files.length ++ " 个，写出 " ++ Nat.repr report.written.length ++
    " 个，诊断 " ++ Nat.repr report.diagnostics.length ++ " 条"

end Report

end Wiring
