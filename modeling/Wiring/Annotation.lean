import Wiring.QualifiedName

/-!
# Annotations

Annotations as they stand on declarations, with their arguments in the order of the source and the
annotations on the annotation's own class.

* `AnnotationValue`, `AnnotationArgument`, `Annotation`;
* `Annotation.argument?`: an argument by its name or, if it is not named, by its place;
* `isAnnotatedWith`: whether a list of annotations has one of a class.
-/

namespace Wiring

/-- The value of an annotation's argument. -/
inductive AnnotationValue where
  | classLiteral (name : QualifiedName)
  | string (text : String)
  | int (value : Int)
  | bool (value : Bool)
  | enumEntry (enumClass : QualifiedName) (entry : String)
  | array (items : List AnnotationValue)
  deriving BEq, Inhabited

namespace AnnotationValue

/-- The class of a class literal. -/
def class? : AnnotationValue → Option QualifiedName
  | classLiteral name => some name
  | _ => none

/-- The text of a string. -/
def string? : AnnotationValue → Option String
  | string text => some text
  | _ => none

end AnnotationValue

/-- An argument of an annotation, with the name of its parameter or by place only. -/
structure AnnotationArgument where
  name : Option String
  value : AnnotationValue
  deriving BEq, Inhabited

/-- An annotation on a declaration. -/
structure Annotation where
  name : QualifiedName
  arguments : List AnnotationArgument
  metaAnnotations : List QualifiedName
  deriving BEq, Inhabited

namespace Annotation

/-- An annotation without arguments. -/
def ofName (name : QualifiedName) : Annotation := ⟨name, [], []⟩

/-- Add an argument at the end. -/
def withArgument (ann : Annotation) (name : Option String) (value : AnnotationValue) :
    Annotation :=
  { ann with arguments := ann.arguments ++ [⟨name, value⟩] }

/-- Add an annotation of the annotation's own class. -/
def withMeta (ann : Annotation) (name : QualifiedName) : Annotation :=
  { ann with metaAnnotations := ann.metaAnnotations ++ [name] }

/-- The value of a parameter: that of the first argument with its name, else that of the argument at
its place, if that one has no name. -/
def argument? (ann : Annotation) (name : String) (place : Nat) : Option AnnotationValue :=
  match ann.arguments.find? (·.name == some name) with
  | some argument => some argument.value
  | none => (ann.arguments[place]?.filter (·.name.isNone)).map (·.value)

/-- The class given for a parameter. -/
def classArgument? (ann : Annotation) (name : String) (place : Nat) :
    Option QualifiedName :=
  (ann.argument? name place).bind AnnotationValue.class?

/-- The text given for a parameter. -/
def stringArgument? (ann : Annotation) (name : String) (place : Nat) : Option String :=
  (ann.argument? name place).bind AnnotationValue.string?

/-- Whether the annotation's own class has one of the given annotations. -/
def carriesMeta (ann : Annotation) (candidates : List QualifiedName) : Bool :=
  candidates.any (ann.metaAnnotations.contains ·)

end Annotation

/-- Whether one of the annotations is of the given class. -/
def isAnnotatedWith (annotations : List Annotation) (name : QualifiedName) : Bool :=
  annotations.any (·.name == name)

end Wiring
