import Wiring.Declaration
import Wiring.Json.Reader
import Wiring.Json.Record

/-!
# Reading a corpus

A corpus is the JSON document of a compilation unit. At most 127 arrays and objects may be nested in
what is read of it.

* `nestingLimit`;
* `TypeRef.ofJson?`, `Annotation.ofJson?`, `ClassDeclaration.ofJson?` and the like: the values that
  a document stands for, within a number of levels;
* `CompilationUnit.read?`: the unit of a document.
-/

namespace Wiring

open Json

/-- The greatest number of arrays and objects that may be nested. -/
def nestingLimit : Nat := 127

/-- The name that a text is. -/
def QualifiedName.ofJson? (value : Json) : Option QualifiedName := (text? value).map (⟨·⟩)

namespace TypeRef

/-- An argument of a type: `star`, or an object with the one key `type`. -/
def argumentOfJson? (ref? : Json → Option TypeRef) : Json → Option (TypeArgument TypeRef)
  | .string (some "star") => some .star
  | .object [(some "star", .null)] => some .star
  | .object [(some "type", ref)] => (ref? ref).map .type
  | _ => none

/-- The type that a value stands for: the name of a class, or an object. An array is no type. -/
def ofKept? : Nat → Json → Option TypeRef
  | depth + 1, .object members => do
    let record ← ofMembers? ["class", "arguments", "nullable"] members
    let head ← record.required? "class" QualifiedName.ofJson?
    let arguments ← record.withDefault? "arguments" []
      (listOf? (fun _ => argumentOfJson? (ofKept? depth)) 1)
    let nullable ← record.withDefault? "nullable" false bool?
    return ⟨head, arguments, nullable⟩
  | _, .string text => text.map fun name => .ofClass ⟨name⟩
  | _, _ => none

/-- The type that a value stands for. A type is read as a whole before it is taken apart, so all of
it, unknown members included, has to denote something. -/
def ofJson? (depth : Nat) (value : Json) : Option TypeRef :=
  if value.kept depth then ofKept? depth value else none

end TypeRef

/-- The argument of a type that a value stands for by itself. -/
def TypeArgument.ofJson? : Nat → Json → Option (TypeArgument TypeRef)
  | 0, _ => none
  | depth + 1, json => TypeRef.argumentOfJson? (TypeRef.ofJson? depth) json

/-- The value of an annotation's argument: an object whose one key names the kind of value. -/
def AnnotationValue.ofJson? : Nat → Json → Option AnnotationValue
  | depth + 2, .object [(some "array", .array items)] =>
    (items.mapM (AnnotationValue.ofJson? depth)).map .array
  | depth + 1, .object [(some "enum", value)] => do
    guard (0 < depth)
    let record ← record? ["class", "entry"] value
    let enumClass ← record.required? "class" QualifiedName.ofJson?
    let entry ← record.required? "entry" text?
    return .enumEntry enumClass entry
  | _ + 1, .object [(some "class", value)] => (QualifiedName.ofJson? value).map .classLiteral
  | _ + 1, .object [(some "string", value)] => (text? value).map .string
  | _ + 1, .object [(some "bool", value)] => (bool? value).map .bool
  | _ + 1, .object [(some "int", value)] => ((int? value).filter inSignedWord).map .int
  | _, _ => none

/-- An argument of an annotation. -/
def AnnotationArgument.ofJson? : Nat → Json → Option AnnotationArgument
  | 0, _ => none
  | depth + 1, json => do
    let record ← record? ["name", "value"] json
    let name ← record.withDefault? "name" none optionalText?
    let value ← record.required? "value" (AnnotationValue.ofJson? depth)
    return ⟨name, value⟩

/-- A list of names. -/
def namesOfJson? : Nat → Json → Option (List QualifiedName) :=
  listOf? fun _ => QualifiedName.ofJson?

/-- An annotation. -/
def Annotation.ofJson? : Nat → Json → Option Annotation
  | 0, _ => none
  | depth + 1, json => do
    let record ← record? ["fq_name", "arguments", "meta_annotations"] json
    let name ← record.required? "fq_name" QualifiedName.ofJson?
    let arguments ← record.withDefault? "arguments" [] (listOf? AnnotationArgument.ofJson? depth)
    let metaAnnotations ← record.withDefault? "meta_annotations" [] (namesOfJson? depth)
    return ⟨name, arguments, metaAnnotations⟩

/-- A list of annotations. -/
def annotationsOfJson? : Nat → Json → Option (List Annotation) := listOf? Annotation.ofJson?

/-- An element. Written as an array it has both fields. -/
def Element.ofJson? : Nat → Json → Option Element
  | 0, _ => none
  | _ + 1, .array [owner, member] => do
    return ⟨← QualifiedName.ofJson? owner, ← optionalText? member⟩
  | _ + 1, .object members => do
    let record ← ofMembers? ["owner", "member"] members
    return ⟨← record.required? "owner" QualifiedName.ofJson?,
      ← record.withDefault? "member" none optionalText?⟩
  | _ + 1, _ => none

/-- The names of the kinds of classes in documents. -/
def ClassKind.names : List (String × ClassKind) :=
  [("class", .plain), ("interface", .interface), ("object", .object),
    ("companion_object", .companionObject)]

/-- A kind of classes. -/
def ClassKind.ofJson? (depth : Nat) (json : Json) : Option ClassKind :=
  (variant? depth json).bind fun name => ClassKind.names.lookup name

/-- A function. -/
def FunctionDeclaration.ofJson? : Nat → Json → Option FunctionDeclaration
  | 0, _ => none
  | depth + 1, json => do
    let record ← record? ["name", "return_type", "annotations"] json
    let name ← record.required? "name" text?
    let returnType ← record.required? "return_type" (TypeRef.ofJson? depth)
    let annotations ← record.withDefault? "annotations" [] (annotationsOfJson? depth)
    return ⟨name, returnType, annotations⟩

/-- A property. -/
def PropertyDeclaration.ofJson? : Nat → Json → Option PropertyDeclaration
  | 0, _ => none
  | depth + 1, json => do
    let record ← record? ["name", "type", "annotations"] json
    let name ← record.required? "name" text?
    let type ← record.required? "type" (TypeRef.ofJson? depth)
    let annotations ← record.withDefault? "annotations" [] (annotationsOfJson? depth)
    return ⟨name, type, annotations⟩

/-- The fields of a class in documents. -/
def ClassDeclaration.fields : List String :=
  ["fq_name", "package", "kind", "annotations", "supertypes", "functions", "properties", "nested"]

/-- A class, given the levels below it and how the list of nested classes is read. -/
def ClassDeclaration.ofRecord? (depth : Nat) (nested? : Json → Option (List ClassDeclaration))
    (json : Json) : Option ClassDeclaration := do
  let record ← record? ClassDeclaration.fields json
  let name ← record.required? "fq_name" QualifiedName.ofJson?
  let package ← record.withDefault? "package" "" text?
  let kind ← record.withDefault? "kind" .plain (ClassKind.ofJson? depth)
  let annotations ← record.withDefault? "annotations" [] (annotationsOfJson? depth)
  let supertypes ← record.withDefault? "supertypes" [] (namesOfJson? depth)
  let functions ← record.withDefault? "functions" [] (listOf? FunctionDeclaration.ofJson? depth)
  let properties ← record.withDefault? "properties" [] (listOf? PropertyDeclaration.ofJson? depth)
  let nested ← record.withDefault? "nested" [] nested?
  return ⟨name, package, kind, annotations, supertypes, functions, properties, nested⟩

/-- A class, with the classes nested in it. -/
def ClassDeclaration.ofJson? : Nat → Json → Option ClassDeclaration
  | 0, _ => none
  | 1, json => ofRecord? 0 (fun _ => none) json
  | depth + 2, json =>
    ofRecord? (depth + 1)
      (fun
        | .array items => items.mapM (ClassDeclaration.ofJson? depth)
        | _ => none)
      json

/-- A table of supertypes. A later entry replaces an earlier one of the same type. -/
def supertypeTableOfJson? : Nat → Json → Option (NameMap (List QualifiedName))
  | depth + 1, .object members => do
    let entries ← members.mapM fun member => do
      return (⟨← member.1⟩, ← namesOfJson? depth member.2)
    return .ofList entries
  | _, _ => none

/-- A compilation unit. -/
def CompilationUnit.ofJson? : Nat → Json → Option CompilationUnit
  | 0, _ => none
  | depth + 1, json => do
    let record ← record? ["module_name", "classes", "external_supertypes"] json
    let moduleName ← record.withDefault? "module_name" "" text?
    let classes ← record.withDefault? "classes" [] (listOf? ClassDeclaration.ofJson? depth)
    let externalSupertypes ← record.withDefault? "external_supertypes" .empty
      (supertypeTableOfJson? depth)
    return ⟨moduleName, classes, externalSupertypes⟩

/-- The compilation unit of a document. -/
def CompilationUnit.read? (document : String) : Option CompilationUnit :=
  (Json.read? document).bind (CompilationUnit.ofJson? nestingLimit)

end Wiring
