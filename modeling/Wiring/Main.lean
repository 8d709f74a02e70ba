import Wiring.Json.Printer
import Wiring.Program

/-!
# Entry point

The program on the files and the environment of a computer.
-/

namespace Wiring

/-- The number by which the system tells that a path leads to a folder where a file is needed. -/
def folderCode : UInt32 := 21

/-- The reason why a file could not be written. -/
def WriteError.ofIO : IO.Error → WriteError
  | .noFileOrDirectory .. => .notFound
  | .alreadyExists .. => .alreadyExists
  | .inappropriateType _ code _ =>
    if code = folderCode then .isADirectory else .notADirectory
  | .invalidArgument .. => .forbiddenCharacter
  | error => .other (toString error)

/-- What a path leads to, given the failed attempt to read it as a file. -/
def PathKind.ofIO : IO.Error → PathKind
  | .noFileOrDirectory .. => .missing
  | .inappropriateType _ code _ =>
    if code = folderCode then .folder else .missing
  | _ => .file

/-- The files of a computer. -/
def computerFiles : FileSystem IO where
  kind path := do
    try
      let _ ← IO.FS.readBinFile path
      return .file
    catch error => return .ofIO error
  read path := do
    try return some (← IO.FS.readFile path)
    catch _ => return none
  write path content := do
    try
      match Path.folder? path with
      | some folder => if !folder.isEmpty then IO.FS.createDirAll folder
      | none => pure ()
      IO.FS.writeFile path content
      return .ok ()
    catch error => return .error (.ofIO error)

/-- The line that shows an event. -/
def LogEvent.line (event : LogEvent) (json : Bool) : String :=
  if json then
    let element := (event.element.map fun element => ("element", Json.text element.text)).toList
    (Json.ofFields [("level", .text event.level.name),
      ("fields", .ofFields (("message", Json.text event.message) :: element))]).print
  else event.level.name ++ " " ++ event.message

/-- The variables in the environment of the process, as the system lists them: names and values with
an equals sign between them, each with a zero byte at its end. -/
def readVariables : IO (List (String × String)) := do
  let listed ←
    try pure (String.fromUTF8? (← IO.FS.readBinFile "/proc/self/environ"))
    catch _ => pure none
  return (Text.segments '\x00' (listed.getD "")).filterMap fun entry =>
    match entry.toList.dropWhile (· ≠ '=') with
    | [] => none
    | _ :: value =>
      some (String.ofList (entry.toList.takeWhile (· ≠ '=')), String.ofList value)

end Wiring

open Wiring in
/-- Run the program. -/
def main (arguments : List String) : IO UInt32 := do
  let vars ← readVariables
  let result ← program arguments computerFiles vars
  for event in result.events do
    IO.println (event.line result.json)
  match parseArguments arguments, result.failure with
  | .help, _ => IO.print usage
  | .misuse, _ => IO.eprint usage
  | _, some failure => IO.eprintln ("Error: " ++ failure)
  | _, none => pure ()
  return result.status.toUInt32
