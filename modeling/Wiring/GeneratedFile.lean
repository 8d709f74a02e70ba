import Wiring.Kotlin.Render
import Wiring.Path

/-!
# Generated files

* `GeneratedFile`: the text of a source file with its package, its name and the interfaces in it;
* `GeneratedFile.relativePath`: where it belongs below the root of the output;
* `GeneratedFile.sortByName`: the order of files in a report.
-/

namespace Wiring

/-- A generated source file. Its name has no extension. -/
structure GeneratedFile where
  package : String
  fileName : String
  content : String
  declarations : List String
  deriving DecidableEq

/-- The generated file of a source file. -/
def Kotlin.SourceFile.toGenerated (file : Kotlin.SourceFile) : GeneratedFile where
  package := file.package
  fileName := file.name
  content := file.render
  declarations := file.interfaces.map (·.name)

namespace GeneratedFile

/-- The path of a file below the root of the output: a folder for each segment of the package, then
the name and the extension. -/
def relativePath (file : GeneratedFile) (extension : String) : String :=
  Path.push (Path.ofParts (Kotlin.packageSegments file.package)) (file.fileName ++ "." ++ extension)

/-- Whether a file does not come after another one: packages are compared first, then names. -/
def before (a b : GeneratedFile) : Bool :=
  a.package < b.package || (a.package = b.package && a.fileName ≤ b.fileName)

/-- Files by package and name. Files of one name keep their order. -/
def sortByName (files : List GeneratedFile) : List GeneratedFile := files.mergeSort before

end GeneratedFile

end Wiring
