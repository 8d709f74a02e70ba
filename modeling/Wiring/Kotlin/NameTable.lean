import Wiring.Kotlin.Keyword
import Wiring.NameMap

/-!
# Names in a file

Which classes a file imports, and how it writes each class that it refers to. Of the classes with
one short name only the first, in the order of the names, is written short; the others keep their
whole names. A class written short is imported unless it lies in the package of the file, in a
package that every file sees, or in no package.

* `defaultPackages`, `qualifiedText`;
* `NameTable`, `NameTable.ofNames`, `NameTable.text`.
-/

namespace Wiring.Kotlin

/-- The packages whose classes need no import. -/
def defaultPackages : List String :=
  ["kotlin", "kotlin.annotation", "kotlin.collections", "kotlin.comparisons", "kotlin.io",
    "kotlin.ranges", "kotlin.sequences", "kotlin.text"]

/-- A whole name as it is written, each segment by itself. -/
def qualifiedText (name : QualifiedName) : String :=
  ".".intercalate (name.segments.map escape)

/-- The classes of a file that are written short, with what is written for them, and its imports,
each in the order of the names. -/
structure NameTable where
  short : List (QualifiedName × String)
  imports : List QualifiedName

/-- Whether a class that is written short has to be imported into a package. -/
def needsImport (package : String) (name : QualifiedName) : Bool :=
  match name.parent? with
  | none => false
  | some parent => parent.text != package && !defaultPackages.contains parent.text

namespace NameTable

/-- The first name with each short name, given the short names that are taken. -/
def firstByShortName (taken : List String) : List QualifiedName → List QualifiedName
  | [] => []
  | name :: rest =>
    if taken.contains name.shortName then firstByShortName taken rest
    else name :: firstByShortName (name.shortName :: taken) rest

/-- The table of a file in a package that refers to the given classes. -/
def ofNames (package : String) (names : List QualifiedName) : NameTable :=
  let chosen := firstByShortName [] (sortedNames names)
  { short := chosen.map fun name => (name, escape name.shortName)
    imports := chosen.filter (needsImport package) }

/-- What is written for a class. -/
def text (table : NameTable) (name : QualifiedName) : String :=
  (table.short.lookup name).getD (qualifiedText name)

end NameTable

end Wiring.Kotlin
