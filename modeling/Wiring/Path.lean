import Wiring.Text.Segments

/-!
# Paths

Paths are texts. Adding a part puts a slash between where one is missing, and an absolute part
replaces all that came before it.

* `Path.push`, `Path.ofParts`: building a path;
* `Path.isAbsolute`, `Path.parts`, `Path.folder?`, `Path.extension?`: taking it apart;
* `Path.withExtension?`: another path beside it.
-/

namespace Wiring.Path

/-- Whether a path starts at the root of the file system. -/
def isAbsolute (path : String) : Bool := path.toList.head? = some '/'

/-- A path with a part added at its end. -/
def push (path part : String) : String :=
  if isAbsolute part then part
  else if path.isEmpty || path.toList.getLast? = some '/' then path ++ part
  else path ++ "/" ++ part

/-- The path of parts that are added one after the other. -/
def ofParts (parts : List String) : String := parts.foldl push ""

/-- The parts between slashes, without empty ones and those that stand for the same folder. -/
def parts (path : String) : List String :=
  (Text.segments '/' path).filter fun part => !part.isEmpty && part != "."

/-- The path of the folder around a path, which is all before the last slash. -/
def folder? (path : String) : Option String :=
  match (Text.segments '/' path).dropLast with
  | [] => none
  | parts => some ("/".intercalate parts)

/-- What follows the last dot of the last part, unless the dot is at its start. -/
def extension? (path : String) : Option String :=
  match (parts path).getLast? with
  | none | some ".." => none
  | some part =>
    match (Text.segments '.' part).reverse with
    | [] | [_] | [_, ""] => none
    | extension :: _ => some extension

/-- The path beside another one that has the same last part and an extension after it. There is none
if the path does not end in the name of a folder or a file. -/
def withExtension? (path extension : String) : Option String :=
  match (parts path).getLast? with
  | none | some ".." => none
  | some _ =>
    some ((if isAbsolute path then "/" else "") ++ "/".intercalate (parts path) ++ "." ++ extension)

end Wiring.Path
