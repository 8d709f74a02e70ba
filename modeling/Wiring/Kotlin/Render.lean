import Wiring.Kotlin.NameTable
import Wiring.Kotlin.Source

/-!
# The text of source files

One text is written for each file: the package, the imports, and the interfaces with their members,
two blanks deep, one empty line between any two of them.

* `render` of types, code, annotations, properties and functions, given a table of names;
* `Interface.render`, `SourceFile.render`: whole interfaces and files.
-/

namespace Wiring.Kotlin

/-- Arguments in angle brackets, or nothing if there are none. -/
def angled (arguments : List String) : String :=
  if arguments.isEmpty then "" else "<" ++ ", ".intercalate arguments ++ ">"

section

variable (names : NameTable)

mutual

/-- The text of a type. -/
def TypeName.render : TypeName → String
  | .star => "*"
  | .named name arguments nullable =>
    names.text name ++ angled (TypeName.renderAll arguments) ++
      (if nullable then "?" else "")
  termination_by structural type => type

/-- The texts of types. -/
def TypeName.renderAll : List TypeName → List String
  | [] => []
  | type :: rest => type.render :: TypeName.renderAll rest
  termination_by structural types => types

end

/-- The text of a part of code. -/
def CodePart.render : CodePart → String
  | .literal text => text
  | .reference name => names.text name

/-- The text of a fragment of code. -/
def Code.render (code : Code) : String := String.join (code.map (CodePart.render names))

/-- The text of an annotation. Without arguments it has no parentheses. -/
def AnnotationUse.render (use : AnnotationUse) : String :=
  "@" ++ (match use.useSite with
    | some site => site.keyword ++ ":"
    | none => "") ++ names.text use.name ++
    (if use.members.isEmpty then ""
     else "(" ++ ", ".intercalate (use.members.map (Code.render names)) ++ ")")

/-- The text of a receiver with its dot. A type that allows null stands in parentheses. -/
def renderReceiver : Option TypeName → String
  | none => ""
  | some type =>
    if type.isNullable then "(" ++ type.render names ++ ")." else type.render names ++ "."

/-- The lines of a property. -/
def Property.lines (property : Property) : List String :=
  property.annotations.map (AnnotationUse.render names) ++
    ["public val " ++ renderReceiver names property.receiver ++ escape property.name ++ ": " ++
      property.type.render names]

/-- The lines of a function. -/
def Function.lines (function : Function) : List String :=
  function.annotations.map (AnnotationUse.render names) ++
    ["public fun " ++ renderReceiver names function.receiver ++ escape function.name ++ "()" ++
      (match function.returns with
      | some type => ": " ++ type.render names
      | none => "")]

/-- The lines of the members of an interface, properties first. -/
def Interface.memberLines (interface : Interface) : List (List String) :=
  interface.properties.map (Property.lines names) ++ interface.functions.map (Function.lines names)

/-- A line with its end. -/
def endLine (line : String) : String := line ++ "\n"

/-- The text of a member within an interface. -/
def renderMember (lines : List String) : String :=
  String.join (lines.map fun line => endLine ("  " ++ line))

/-- The text of an interface. Without members it has no braces. -/
def Interface.render (interface : Interface) : String :=
  String.join (interface.annotations.map fun use => endLine (use.render names)) ++
    "public interface " ++ escape interface.name ++
    (if (interface.memberLines names).isEmpty then "\n"
     else " \x7b\n" ++ "\n".intercalate ((interface.memberLines names).map renderMember) ++
      "\x7d\n")

end

/-- The names in a file. -/
def SourceFile.nameTable (file : SourceFile) : NameTable := .ofNames file.package file.classNames

/-- The line of the package of a file, with an empty line after it. -/
def SourceFile.packageHeader (file : SourceFile) : String :=
  if file.package.isEmpty then "" else "package " ++ packageText file.package ++ "\n\n"

/-- The lines of imports, with an empty line after them. -/
def renderImports (imports : List QualifiedName) : String :=
  if imports.isEmpty then ""
  else String.join (imports.map fun name => endLine ("import " ++ qualifiedText name)) ++ "\n"

/-- The text of a file. -/
def SourceFile.render (file : SourceFile) : String :=
  file.packageHeader ++ renderImports file.nameTable.imports ++
    "\n".intercalate (file.interfaces.map (Interface.render file.nameTable))

end Wiring.Kotlin
