import Wiring.QualifiedName

/-!
# Types

References to types as declarations make them: a class, arguments, and whether null is allowed.

* `TypeArgument`, `TypeRef`: the star projection or a type, and types;
* `TypeRef.writeOn`, `TypeRef.display`: a type written behind a text, and the text of a type.
-/

namespace Wiring

/-- An argument of a type: the star projection, or a type. -/
inductive TypeArgument (Ref : Type) where
  | star
  | type (ref : Ref)
  deriving BEq

/-- A reference to a type. -/
structure TypeRef where
  head : QualifiedName
  arguments : List (TypeArgument TypeRef)
  nullable : Bool
  deriving BEq, Inhabited

namespace TypeRef

/-- The type of a class, without arguments. -/
def ofClass (head : QualifiedName) : TypeRef := ⟨head, [], false⟩

/-- The type with null allowed. -/
def orNull (ref : TypeRef) : TypeRef := { ref with nullable := true }

/-- Add an argument at the end. -/
def withArgument (ref : TypeRef) (argument : TypeArgument TypeRef) : TypeRef :=
  { ref with arguments := ref.arguments ++ [argument] }

mutual

/-- An output with a type written behind it, piece after piece: the class, its arguments in angle
brackets, a question mark. -/
def writeOn : TypeRef → String → String
  | ⟨head, arguments, nullable⟩, out =>
    let named := out ++ head.text
    let applied :=
      if arguments.isEmpty then named else writeArguments arguments true (named ++ "<") ++ ">"
    if nullable then applied ++ "?" else applied
  termination_by structural ref => ref

/-- An output with arguments written behind it, with a comma before each but the first. -/
def writeArguments : List (TypeArgument TypeRef) → Bool → String → String
  | [], _, out => out
  | .star :: rest, isFirst, out =>
    writeArguments rest false ((if isFirst then out else out ++ ", ") ++ "*")
  | .type ref :: rest, isFirst, out =>
    writeArguments rest false (ref.writeOn (if isFirst then out else out ++ ", "))
  termination_by structural arguments => arguments

end

/-- The text of a type. -/
def display (ref : TypeRef) : String := ref.writeOn ""

end TypeRef

end Wiring
