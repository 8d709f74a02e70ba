import Wiring.FileSystem
import Wiring.Report

/-!
# Writers

Where the files of a report go. A file that cannot be written makes a diagnostic and does not keep
others from being written.

* `Writer`, `memoryWriter`, `folderWriter`: a list in memory, and a folder;
* `Report.writeTo`: writing all files of a report.
-/

namespace Wiring

/-- A place for files. Writing gives the path of the file. -/
structure Writer (m : Type → Type) where
  name : String
  write : GeneratedFile → m (Except Failure String)

/-- The extension of files if none is given. -/
def defaultExtension : String := "kt"

/-- A writer that keeps files in memory, in the order in which they come. -/
def memoryWriter : Writer (StateM (List GeneratedFile)) where
  name := "in-memory"
  write file := do
    modify (· ++ [file])
    return .ok (file.relativePath defaultExtension)

section

variable {m : Type → Type} [Monad m]

/-- A writer that puts files below a root folder, each in the folder of its package. -/
def folderWriter (files : FileSystem m) (root extension : String) : Writer m where
  name := "filesystem"
  write file := do
    let path := Path.push root (file.relativePath extension)
    match ← files.write path file.content with
    | .ok () => return .ok path
    | .error reason => return .error (.artifactWrite path reason)

/-- The event of a file that could not be written. -/
def writeEvent (writer : Writer m) (file : GeneratedFile) (failure : Failure) : LogEvent where
  level := .error
  message := writer.name ++ " 写出 " ++ file.fileName ++ " 失败: " ++ failure.message

/-- Write one file and add to a report what came of it. -/
def Report.writeFile (writer : Writer m) (report : Report) (file : GeneratedFile) : m Report := do
  match ← writer.write file with
  | .ok path => return { report with written := report.written ++ [path] }
  | .error failure =>
    return { report with
      diagnostics := report.diagnostics ++ [.ofFailure writer.name failure none]
      events := report.events ++ [writeEvent writer file failure] }

/-- Write all files of a report in order. -/
def Report.writeTo (writer : Writer m) (report : Report) : m Report :=
  report.files.foldlM (Report.writeFile writer) report

end

end Wiring
