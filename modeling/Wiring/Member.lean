import Wiring.Failure

/-!
# Members

The functions and properties of a class and of its companion objects, which count as one group.

* `Member`, `ClassDeclaration.members`, `ClassDeclaration.markedMembers`: functions before
  properties, and in each those of companion objects before those of the class;
* `requireCompanion`: a marker that needs another annotation beside it.
-/

namespace Wiring

/-- The kinds of members. -/
inductive MemberKind where
  | function
  | property
  deriving DecidableEq

/-- A member of a class or of a companion object: a function with the type it returns, or a
property. -/
structure Member where
  element : Element
  kind : MemberKind
  type : TypeRef
  annotations : List Annotation

/-- The name of a member. -/
def Member.name (member : Member) : String := member.element.member.getD ""

namespace ClassDeclaration

/-- The classes whose members count as those of a class: its companion objects, then itself. -/
def holders (c : ClassDeclaration) : List ClassDeclaration := c.companions ++ [c]

/-- The functions of a class itself. -/
def ownFunctions (c : ClassDeclaration) : List Member :=
  c.functions.map fun f => ⟨⟨c.name, some f.name⟩, .function, f.returnType, f.annotations⟩

/-- The properties of a class itself. -/
def ownProperties (c : ClassDeclaration) : List Member :=
  c.properties.map fun p => ⟨⟨c.name, some p.name⟩, .property, p.type, p.annotations⟩

/-- The members of a class and of its companion objects. -/
def members (c : ClassDeclaration) : List Member :=
  c.holders.flatMap ownFunctions ++ c.holders.flatMap ownProperties

/-- The members that have an annotation. -/
def markedMembers (c : ClassDeclaration) (marker : QualifiedName) : List Member :=
  c.members.filter fun member => isAnnotatedWith member.annotations marker

end ClassDeclaration

/-- Require one of the accepted annotations on a member that has a marker. -/
def requireCompanion (member : Member) (marker : QualifiedName) (accepted : List QualifiedName) :
    Except Failure Unit :=
  if accepted.any (isAnnotatedWith member.annotations) then .ok ()
  else
    .error (.missingCompanion member.element ("@" ++ marker.shortName)
      (" 或 ".intercalate (accepted.map fun name => "@" ++ name.shortName)))

end Wiring
