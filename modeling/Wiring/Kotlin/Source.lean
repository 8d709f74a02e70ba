import Wiring.Annotation
import Wiring.Kotlin.Quoted
import Wiring.TypeRef

/-!
# Source files

What generated files consist of: abstract properties and functions of interfaces, with annotations.
Classes are given by their qualified names; how each is written is decided for a file as a whole.

* `TypeName`, `Code`, `AnnotationUse`: types, fragments of code, annotations;
* `Property`, `Function`, `Interface`, `SourceFile`;
* `classNames` of each: the classes that it refers to.
-/

namespace Wiring.Kotlin

/-! ## Types -/

/-- A type in a source file: the star projection, or a class with arguments. -/
inductive TypeName where
  | star
  | named (name : QualifiedName) (arguments : List TypeName) (nullable : Bool)
  deriving Inhabited

namespace TypeName

/-- The type of a class, without arguments. -/
def ofClass (name : QualifiedName) : TypeName := .named name [] false

/-- The type with other arguments. The star projection has none. -/
def parameterizedBy : TypeName → List TypeName → TypeName
  | .star, _ => .star
  | .named name _ nullable, arguments => .named name arguments nullable

/-- Whether null is allowed. -/
def isNullable : TypeName → Bool
  | .star => false
  | .named _ _ nullable => nullable

mutual

/-- The type that a declaration refers to. -/
def ofRef : TypeRef → TypeName
  | ⟨head, arguments, nullable⟩ => .named head (ofArguments arguments) nullable
  termination_by structural ref => ref

/-- The arguments of a type that a declaration refers to. -/
def ofArguments : List (TypeArgument TypeRef) → List TypeName
  | [] => []
  | .star :: rest => .star :: ofArguments rest
  | .type ref :: rest => ofRef ref :: ofArguments rest
  termination_by structural arguments => arguments

end

mutual

/-- The classes in a type. -/
def classNames : TypeName → List QualifiedName
  | .star => []
  | .named name arguments _ => name :: listClassNames arguments
  termination_by structural type => type

/-- The classes in a list of types. -/
def listClassNames : List TypeName → List QualifiedName
  | [] => []
  | type :: rest => type.classNames ++ listClassNames rest
  termination_by structural types => types

end

end TypeName

/-! ## Code -/

/-- A part of a fragment of code: text, or a reference to a class. -/
inductive CodePart where
  | literal (text : String)
  | reference (name : QualifiedName)
  deriving DecidableEq

/-- A fragment of code. -/
abbrev Code := List CodePart

namespace Code

/-- Plain text. -/
def literal (text : String) : Code := [.literal text]

/-- The literal of a class. -/
def classLiteral (name : QualifiedName) : Code := [.reference name, .literal "::class"]

mutual

/-- The value of an annotation's argument. -/
def ofValue : AnnotationValue → Code
  | .classLiteral name => classLiteral name
  | .string text => literal (quote text)
  | .int value => literal (toString value)
  | .bool value => literal (if value then "true" else "false")
  | .enumEntry enumClass entry => [.reference enumClass, .literal ("." ++ entry)]
  | .array items => literal "[" ++ ofItems items ++ literal "]"
  termination_by structural value => value

/-- The items of an array, with commas between them. -/
def ofItems : List AnnotationValue → Code
  | [] => []
  | item :: rest => ofValue item ++ ofFurther rest
  termination_by structural items => items

/-- The items of an array after the first one, each after a comma. -/
def ofFurther : List AnnotationValue → Code
  | [] => []
  | item :: rest => literal ", " ++ ofValue item ++ ofFurther rest
  termination_by structural items => items

end

/-- The classes in a fragment of code. -/
def classNames (code : Code) : List QualifiedName :=
  code.filterMap fun
    | .literal _ => none
    | .reference name => some name

end Code

/-! ## Annotations -/

/-- What an annotation on a property applies to, if not to the property itself. -/
inductive UseSite where
  | getter
  | receiver
  deriving DecidableEq

/-- The word for a use site. -/
def UseSite.keyword : UseSite → String
  | .getter => "get"
  | .receiver => "receiver"

/-- An annotation in a source file. -/
structure AnnotationUse where
  name : QualifiedName
  members : List Code
  useSite : Option UseSite
  deriving DecidableEq

namespace AnnotationUse

/-- An annotation without arguments. -/
def ofName (name : QualifiedName) : AnnotationUse := ⟨name, [], none⟩

/-- An argument of an annotation, with the name of its parameter if it is given. -/
def argumentCode (argument : AnnotationArgument) : Code :=
  match argument.name with
  | some name => Code.literal (name ++ " = ") ++ Code.ofValue argument.value
  | none => Code.ofValue argument.value

/-- A copy of an annotation of the declarations. -/
def copyOf (ann : Annotation) : AnnotationUse :=
  ⟨ann.name, ann.arguments.map argumentCode, none⟩

/-- Add an argument at the end. -/
def withMember (use : AnnotationUse) (member : Code) : AnnotationUse :=
  { use with members := use.members ++ [member] }

/-- The annotation at a use site. -/
def onSite (use : AnnotationUse) (site : UseSite) : AnnotationUse :=
  { use with useSite := some site }

/-- The classes in an annotation. -/
def classNames (use : AnnotationUse) : List QualifiedName :=
  use.name :: use.members.flatMap Code.classNames

end AnnotationUse

/-! ## Interfaces -/

/-- An abstract property, which may extend a receiver. -/
structure Property where
  name : String
  type : TypeName
  receiver : Option TypeName
  annotations : List AnnotationUse

/-- An abstract function without parameters, which may extend a receiver. -/
structure Function where
  name : String
  receiver : Option TypeName
  returns : Option TypeName
  annotations : List AnnotationUse

/-- An interface. -/
structure Interface where
  name : String
  annotations : List AnnotationUse
  properties : List Property
  functions : List Function

/-- A source file: interfaces in a package. -/
structure SourceFile where
  package : String
  name : String
  interfaces : List Interface

/-- The classes in an optional type. -/
def optionalClassNames (type : Option TypeName) : List QualifiedName :=
  type.toList.flatMap TypeName.classNames

/-- The classes in a property. -/
def Property.classNames (property : Property) : List QualifiedName :=
  property.type.classNames ++ optionalClassNames property.receiver ++
    property.annotations.flatMap AnnotationUse.classNames

/-- The classes in a function. -/
def Function.classNames (function : Function) : List QualifiedName :=
  optionalClassNames function.receiver ++ optionalClassNames function.returns ++
    function.annotations.flatMap AnnotationUse.classNames

/-- The classes in an interface. -/
def Interface.classNames (interface : Interface) : List QualifiedName :=
  interface.annotations.flatMap AnnotationUse.classNames ++
    interface.properties.flatMap Property.classNames ++
    interface.functions.flatMap Function.classNames

/-- The classes in a file. -/
def SourceFile.classNames (file : SourceFile) : List QualifiedName :=
  file.interfaces.flatMap Interface.classNames

end Wiring.Kotlin
