import Wiring.Annotation
import Wiring.NameMap
import Wiring.Text.LowerCase
import Wiring.TypeRef

/-!
# Declarations

What the front end of a compiler tells about one compilation unit: classes with their members, and
the supertypes of types that are declared elsewhere.

* `Element`: a class or a member of it, as errors name it;
* `ClassDeclaration`, `FunctionDeclaration`, `PropertyDeclaration`;
* `CompilationUnit`, with all its classes in depth-first order (`allClasses`) and the way to each
  of them (`classPaths`, `classAt?`).
-/

namespace Wiring

/-- A class, or a member of it. -/
structure Element where
  owner : QualifiedName
  member : Option String
  deriving DecidableEq, Inhabited

namespace Element

/-- The element of a class. -/
def ofClass (owner : QualifiedName) : Element := ⟨owner, none⟩

/-- The text of an element: the class, then `#` and the member. -/
def text (element : Element) : String :=
  match element.member with
  | some member => element.owner.text ++ "#" ++ member
  | none => element.owner.text

end Element

/-- The kinds of classes. -/
inductive ClassKind where
  | plain
  | interface
  | object
  | companionObject
  deriving DecidableEq, Inhabited

/-- A function of a class. -/
structure FunctionDeclaration where
  name : String
  returnType : TypeRef
  annotations : List Annotation
  deriving BEq, Inhabited

/-- A property of a class. -/
structure PropertyDeclaration where
  name : String
  type : TypeRef
  annotations : List Annotation
  deriving BEq, Inhabited

/-- A class with its members and the classes nested in it, each in the order of the source. -/
structure ClassDeclaration where
  name : QualifiedName
  package : String
  kind : ClassKind
  annotations : List Annotation
  supertypes : List QualifiedName
  functions : List FunctionDeclaration
  properties : List PropertyDeclaration
  nested : List ClassDeclaration
  deriving BEq, Inhabited

/-- What stands between the names of a class and of a class nested in it in a generated name. -/
def nestedSeparator : String := "_"

namespace ClassDeclaration

/-- The empty class with a name relative to a package. -/
def ofName (package relative : String) : ClassDeclaration where
  name := ⟨if package.isEmpty then relative else package ++ "." ++ relative⟩
  package := package
  kind := .plain
  annotations := []
  supertypes := []
  functions := []
  properties := []
  nested := []

/-- Add an annotation. -/
def annotate (c : ClassDeclaration) (ann : Annotation) : ClassDeclaration :=
  { c with annotations := c.annotations ++ [ann] }

/-- Add a direct supertype. -/
def withSupertype (c : ClassDeclaration) (supertype : QualifiedName) : ClassDeclaration :=
  { c with supertypes := c.supertypes ++ [supertype] }

/-- Add a function. -/
def withFunction (c : ClassDeclaration) (function : FunctionDeclaration) : ClassDeclaration :=
  { c with functions := c.functions ++ [function] }

/-- Add a property. -/
def withProperty (c : ClassDeclaration) (property : PropertyDeclaration) : ClassDeclaration :=
  { c with properties := c.properties ++ [property] }

/-- Add a nested class. -/
def withNested (c nested : ClassDeclaration) : ClassDeclaration :=
  { c with nested := c.nested ++ [nested] }

/-- Add a companion object, of whatever kind the class was. -/
def withCompanion (c companion : ClassDeclaration) : ClassDeclaration :=
  c.withNested { companion with kind := .companionObject }

/-- The name without its package, as segments: what follows the package and a dot, or the whole name
if it does not start so. -/
def relativeSegments (c : ClassDeclaration) : List String :=
  let all := c.name.text.toList
  let relative :=
    if c.package.isEmpty then all
    else (Text.dropStart? (c.package.toList ++ ['.']) all).getD all
  (Text.splitOn '.' relative).map String.ofList

/-- The type of a class. -/
def asType (c : ClassDeclaration) : TypeRef := .ofClass c.name

/-- The element of a class. -/
def element (c : ClassDeclaration) : Element := .ofClass c.name

/-- The companion objects directly in a class. -/
def companions (c : ClassDeclaration) : List ClassDeclaration :=
  c.nested.filter (·.kind = .companionObject)

/-- The name of what is generated for a class: its segments with a separator between them, then a
suffix. -/
def generatedName (c : ClassDeclaration) (suffix : String) : String :=
  nestedSeparator.intercalate c.relativeSegments ++ suffix

/-- The name of a provided class if none is given: the short name with a small first letter. -/
def provisionName (c : ClassDeclaration) : String := Text.decapitalize c.name.shortName

mutual

/-- A class and all classes nested in it, depth first. -/
def family : ClassDeclaration → List ClassDeclaration
  | c@⟨_, _, _, _, _, _, _, nested⟩ => c :: families nested
  termination_by structural c => c

/-- The families of a list of classes, one after the other. -/
def families : List ClassDeclaration → List ClassDeclaration
  | [] => []
  | c :: rest => c.family ++ families rest
  termination_by structural classes => classes

end

mutual

/-- A class and all classes nested in it, depth first, each with the indices that lead to it after
those of the class itself. -/
def paths (path : List Nat) : ClassDeclaration → List (List Nat × ClassDeclaration)
  | c@⟨_, _, _, _, _, _, _, nested⟩ => (path, c) :: pathsFrom path 0 nested
  termination_by structural c => c

/-- The paths of the classes of a list, of which the first one has the given index. -/
def pathsFrom (path : List Nat) (index : Nat) :
    List ClassDeclaration → List (List Nat × ClassDeclaration)
  | [] => []
  | c :: rest => c.paths (path ++ [index]) ++ pathsFrom path (index + 1) rest
  termination_by structural classes => classes

end

end ClassDeclaration

/-- The declarations of one compilation unit. -/
structure CompilationUnit where
  moduleName : String
  classes : List ClassDeclaration
  externalSupertypes : NameMap (List QualifiedName)
  deriving BEq, Inhabited

namespace CompilationUnit

/-- The unit without declarations. -/
def empty : CompilationUnit := ⟨"", [], .empty⟩

/-- Add a class at the end. -/
def withClass (unit : CompilationUnit) (c : ClassDeclaration) : CompilationUnit :=
  { unit with classes := unit.classes ++ [c] }

/-- Set the supertypes of a type that is declared elsewhere. -/
def withExternalSupertypes (unit : CompilationUnit) (type : QualifiedName)
    (supertypes : List QualifiedName) : CompilationUnit :=
  { unit with externalSupertypes := unit.externalSupertypes.insert type supertypes }

/-- All classes of a unit, depth first. -/
def allClasses (unit : CompilationUnit) : List ClassDeclaration :=
  ClassDeclaration.families unit.classes

/-- All classes of a unit, depth first, each with the indices that lead to it. -/
def classPaths (unit : CompilationUnit) : List (List Nat × ClassDeclaration) :=
  ClassDeclaration.pathsFrom [] 0 unit.classes

/-- The class that a path leads to. -/
def classAt? (unit : CompilationUnit) : List Nat → Option ClassDeclaration
  | [] => none
  | index :: rest => (unit.classes[index]?).bind fun c => rest.foldlM (·.nested[·]?) c

/-- The first class of a name, depth first. -/
def findClass? (unit : CompilationUnit) (name : QualifiedName) : Option ClassDeclaration :=
  unit.allClasses.find? (·.name == name)

end CompilationUnit

end Wiring
