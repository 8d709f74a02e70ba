import Wiring.Failure
import Wiring.Path

/-!
# Trees of files

Files and folders by the names that lead to them from the root of a file system. Every folder of a
file or a folder is there as well.

* `FileTree`, `FileTree.locate?`, `FileTree.read?`: finding what a path leads to;
* `FileTree.makeWay`, `FileTree.put`, `FileTree.write`: making the folders on the way to a path, and
  writing a file;
* `FileTree.below`: the files below a folder.
-/

namespace Wiring

/-- The folders but for the root, and the files with their texts. -/
structure FileTree where
  folders : List (List String)
  files : List (List String × String)

namespace FileTree

/-- The tree without files. -/
def empty : FileTree := ⟨[], []⟩

/-- Whether names lead to a folder. -/
def isFolder (tree : FileTree) (names : List String) : Bool :=
  names.isEmpty || tree.folders.contains names

/-- The text of the file that names lead to. -/
def content? (tree : FileTree) (names : List String) : Option String := tree.files.lookup names

/-- The names that lead one step further. Two dots lead back to the folder around, which for the
root is the root itself. -/
def next (names : List String) (part : String) : List String :=
  if part = ".." then names.dropLast else names ++ [part]

/-- The names that the parts of a path lead to, if all folders on the way are there. -/
def locate? (tree : FileTree) : List String → List String → Option (List String)
  | names, [] => some names
  | names, part :: parts =>
    if tree.isFolder names then locate? tree (next names part) parts else none

/-- Whether a path asks for a folder by its end. -/
def endsInFolder (path : String) : Bool :=
  match (Text.segments '/' path).getLast? with
  | some last => last.isEmpty || last = "." || last = ".."
  | none => true

/-- Whether there is a folder at a path. -/
def hasFolder (tree : FileTree) (path : String) : Bool :=
  !path.isEmpty && (tree.locate? [] (Path.parts path)).any tree.isFolder

/-- The text of the file at a path. -/
def read? (tree : FileTree) (path : String) : Option String :=
  if endsInFolder path then none
  else (tree.locate? [] (Path.parts path)).bind tree.content?

/-! ## Writing -/

/-- The number of bytes that a name may have. -/
def nameLimit : Nat := 255

/-- Whether a name has more bytes than it may have. -/
def isTooLong (name : String) : Bool := nameLimit < name.utf8ByteSize

/-- The number of bytes that a path has to stay below. -/
def pathLimit : Nat := 4096

/-- Whether a path has more bytes than it may have. -/
def isPathTooLong (path : String) : Bool := pathLimit ≤ path.utf8ByteSize

/-- Whether a name has a character that no file system takes. -/
def isForbidden (name : String) : Bool := name.toList.contains '\x00'

/-- Make a folder unless it is there. -/
def makeFolder (tree : FileTree) (names : List String) (part : String) :
    Except WriteError FileTree :=
  if tree.isFolder names then .ok tree
  else if isTooLong part then .error .nameTooLong
  else if (tree.content? names).isSome then .error .notADirectory
  else .ok { tree with folders := tree.folders ++ [names] }

/-- Make the folders that the parts of a path lead through, from given names on, and give the names
that they lead to. Folders that were made stay if a later one cannot be made. -/
def makeFolders (tree : FileTree) (names : List String) :
    List String → FileTree × Except WriteError (List String)
  | [] => (tree, .ok names)
  | part :: parts =>
    match tree.makeFolder (next names part) part with
    | .error reason => (tree, .error reason)
    | .ok made => makeFolders made (next names part) parts

/-- Set the text of the file that names lead to, in a list of files. -/
def putFile (names : List String) (content : String) :
    List (List String × String) → List (List String × String)
  | [] => [(names, content)]
  | entry :: rest =>
    if entry.1 = names then (names, content) :: rest else entry :: putFile names content rest

/-- Set the text of the file that names lead to, unless there is a folder. -/
def store (tree : FileTree) (names : List String) (name content : String) :
    Except WriteError FileTree :=
  if isForbidden name then .error .forbiddenCharacter
  else if tree.isFolder names then .error .isADirectory
  else if isTooLong name then .error .nameTooLong
  else .ok { tree with files := putFile names content tree.files }

/-- Make the folders that are missing on the way to a path, and give the names of the folder around
it. -/
def makeWay (tree : FileTree) (path : String) : FileTree × Except WriteError (List String) :=
  let parts := (Path.parts path).dropLast
  if parts.any isForbidden then (tree, .error .forbiddenCharacter) else tree.makeFolders [] parts

/-- Set the text of the file at a path, given the names of the folder around it. -/
def put (tree : FileTree) (folder : List String) (path content : String) :
    Except WriteError FileTree :=
  match (Path.parts path).getLast? with
  | none => .error .isADirectory
  | some name =>
    if endsInFolder path then .error .isADirectory
    else tree.store (folder ++ [name]) name content

/-- The tree after an attempt to write a file at a path from a working folder on, and what came of
it. Folders that are missing are made first. Only the path as it is given can be too long, as that
of the folder around the file or else as that of the file itself. -/
def write (tree : FileTree) (workingFolder path content : String) :
    FileTree × Except WriteError Unit :=
  if isPathTooLong ((Path.folder? path).getD "") then (tree, .error .nameTooLong)
  else
    let whole := Path.push workingFolder path
    match tree.makeWay whole with
    | (made, .error reason) => (made, .error reason)
    | (made, .ok folder) =>
      if isPathTooLong path then (made, .error .nameTooLong)
      else
        match made.put folder whole content with
        | .error reason => (made, .error reason)
        | .ok written => (written, .ok ())

/-- The files below a folder, by the path from the folder on. -/
def below (tree : FileTree) (folder : List String) : List (String × String) :=
  tree.files.filterMap fun entry =>
    (Text.dropStart? folder entry.1).map fun names => ("/".intercalate names, entry.2)

end FileTree

end Wiring
