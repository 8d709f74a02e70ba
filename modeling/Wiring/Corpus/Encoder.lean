import Wiring.Corpus.Decoder
import Wiring.Json.Printer

/-!
# Writing a corpus

The document of a compilation unit. Every field is written, types always as objects, and the table
of supertypes in the order of its keys.

* `TypeRef.toJson`, `Annotation.toJson`, `ClassDeclaration.toJson` and the like;
* `CompilationUnit.print`: the document of a unit.
-/

namespace Wiring

open Json

/-- The text of a name. -/
def QualifiedName.toJson (name : QualifiedName) : Json := .text name.text

/-- The texts of names. -/
def namesToJson (names : List QualifiedName) : Json := .array (names.map QualifiedName.toJson)

mutual

/-- A type as an object. -/
def TypeRef.toJson : TypeRef → Json
  | ⟨head, arguments, nullable⟩ =>
    .ofFields [("class", head.toJson), ("arguments", .array (TypeRef.argumentsToJson arguments)),
      ("nullable", .bool nullable)]
  termination_by structural ref => ref

/-- The arguments of a type. -/
def TypeRef.argumentsToJson : List (TypeArgument TypeRef) → List Json
  | [] => []
  | .star :: rest => .text "star" :: TypeRef.argumentsToJson rest
  | .type ref :: rest => .ofFields [("type", ref.toJson)] :: TypeRef.argumentsToJson rest
  termination_by structural arguments => arguments

end

mutual

/-- A value of an annotation's argument. -/
def AnnotationValue.toJson : AnnotationValue → Json
  | .classLiteral name => .ofFields [("class", name.toJson)]
  | .string text => .ofFields [("string", .text text)]
  | .int value => .ofFields [("int", .int value)]
  | .bool value => .ofFields [("bool", .bool value)]
  | .enumEntry enumClass entry =>
    .ofFields [("enum", .ofFields [("class", enumClass.toJson), ("entry", .text entry)])]
  | .array items => .ofFields [("array", .array (AnnotationValue.itemsToJson items))]
  termination_by structural value => value

/-- The items of an array in an annotation. -/
def AnnotationValue.itemsToJson : List AnnotationValue → List Json
  | [] => []
  | item :: rest => item.toJson :: AnnotationValue.itemsToJson rest
  termination_by structural items => items

end

/-- An argument of an annotation. -/
def AnnotationArgument.toJson (argument : AnnotationArgument) : Json :=
  .ofFields [("name", (argument.name.map Json.text).getD .null), ("value", argument.value.toJson)]

/-- An annotation. -/
def Annotation.toJson (ann : Annotation) : Json :=
  .ofFields [("fq_name", ann.name.toJson),
    ("arguments", .array (ann.arguments.map AnnotationArgument.toJson)),
    ("meta_annotations", namesToJson ann.metaAnnotations)]

/-- A list of annotations. -/
def annotationsToJson (annotations : List Annotation) : Json :=
  .array (annotations.map Annotation.toJson)

/-- The name of a kind of classes. -/
def ClassKind.name : ClassKind → String
  | .plain => "class"
  | .interface => "interface"
  | .object => "object"
  | .companionObject => "companion_object"

theorem ClassKind.lookup_name (kind : ClassKind) :
    ClassKind.names.lookup kind.name = some kind := by
  cases kind <;> rfl

/-- A function. -/
def FunctionDeclaration.toJson (function : FunctionDeclaration) : Json :=
  .ofFields [("name", .text function.name), ("return_type", function.returnType.toJson),
    ("annotations", annotationsToJson function.annotations)]

/-- A property. -/
def PropertyDeclaration.toJson (property : PropertyDeclaration) : Json :=
  .ofFields [("name", .text property.name), ("type", property.type.toJson),
    ("annotations", annotationsToJson property.annotations)]

mutual

/-- A class, with the classes nested in it. -/
def ClassDeclaration.toJson : ClassDeclaration → Json
  | ⟨name, package, kind, annotations, supertypes, functions, properties, nested⟩ =>
    .ofFields [("fq_name", name.toJson), ("package", .text package), ("kind", .text kind.name),
      ("annotations", annotationsToJson annotations), ("supertypes", namesToJson supertypes),
      ("functions", .array (functions.map FunctionDeclaration.toJson)),
      ("properties", .array (properties.map PropertyDeclaration.toJson)),
      ("nested", .array (ClassDeclaration.listToJson nested))]
  termination_by structural c => c

/-- A list of classes. -/
def ClassDeclaration.listToJson : List ClassDeclaration → List Json
  | [] => []
  | c :: rest => c.toJson :: ClassDeclaration.listToJson rest
  termination_by structural classes => classes

end

/-- A table of supertypes. -/
def supertypeTableToJson (table : NameMap (List QualifiedName)) : Json :=
  .ofFields (table.entries.map fun entry => (entry.1.text, namesToJson entry.2))

/-- A compilation unit. -/
def CompilationUnit.toJson (unit : CompilationUnit) : Json :=
  .ofFields [("module_name", .text unit.moduleName),
    ("classes", .array (ClassDeclaration.listToJson unit.classes)),
    ("external_supertypes", supertypeTableToJson unit.externalSupertypes)]

/-- The document of a compilation unit. -/
def CompilationUnit.print (unit : CompilationUnit) : String := unit.toJson.print

end Wiring
