import Wiring.Text.Segments

/-!
# Keywords

Hard keywords may stand as names only between back-ticks.

* `hardKeywords`, `escape`: one name;
* `packageSegments`, `packageText`: the name of a package.
-/

namespace Wiring.Kotlin

/-- The words that are no names. -/
def hardKeywords : List String :=
  ["as", "break", "class", "continue", "do", "else", "false", "for", "fun", "if", "in",
    "interface", "is", "null", "object", "package", "return", "super", "this", "throw", "true",
    "try", "typealias", "typeof", "val", "var", "when", "while"]

/-- A name as it is written: between back-ticks if it is a hard keyword. -/
def escape (name : String) : String :=
  if hardKeywords.contains name then "`" ++ name ++ "`" else name

/-- The segments of a package, without empty ones. -/
def packageSegments (package : String) : List String :=
  (Text.segments '.' package).filter (!·.isEmpty)

/-- The name of a package as it is written. -/
def packageText (package : String) : String :=
  ".".intercalate ((packageSegments package).map escape)

end Wiring.Kotlin
