import Wiring.FileTree

/-!
# File systems

What a run needs of the files around it, whatever they are kept in.

* `FileSystem`: telling files from folders, reading and writing;
* `FileTree.fileSystem`: the operations on a tree of files.
-/

namespace Wiring

/-- What a path leads to. -/
inductive PathKind where
  | missing
  | folder
  | file
  deriving DecidableEq

/-- The operations on files. Reading gives nothing if there is no file or it is no text; writing
makes the folders that are missing. -/
structure FileSystem (m : Type → Type) where
  kind : String → m PathKind
  read : String → m (Option String)
  write : String → String → m (Except WriteError Unit)

namespace FileTree

/-- What a path leads to in a tree. -/
def kind (tree : FileTree) (path : String) : PathKind :=
  if tree.hasFolder path then .folder
  else if (tree.read? path).isSome then .file
  else .missing

/-- The operations on a tree, where paths that are not absolute start at a working folder. -/
def fileSystem (workingFolder : String) : FileSystem (StateM FileTree) where
  kind path :=
    if path.isEmpty || isPathTooLong path then return .missing
    else return (← get).kind (Path.push workingFolder path)
  read path :=
    if isPathTooLong path then return none
    else return (← get).read? (Path.push workingFolder path)
  write path content := do
    let (tree, result) := (← get).write workingFolder path content
    set tree
    return result

end FileTree

end Wiring
