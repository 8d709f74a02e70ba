import Wiring.Hierarchy
import Wiring.Marker
import Wiring.Member

/-!
# Bindings

A member with a binding marker provides its value under a supertype as well, once per marker.

* `Binding`: a member, its type and the supertype;
* `verifyBoundType`: the supertype has to be a strict one;
* `Member.bindings`: the bindings that the markers on a member ask for.
-/

namespace Wiring

/-- A provided value that is bound to a supertype of its type. -/
structure Binding where
  memberName : String
  memberType : QualifiedName
  boundType : QualifiedName
  owner : QualifiedName
  qualifiers : List Annotation

/-- Require that the bound type is a strict supertype of the type of a member. -/
def verifyBoundType (element : Element) (memberType boundType : QualifiedName)
    (hierarchy : Hierarchy) : Except Failure Unit :=
  if hierarchy.isStrictSupertype memberType boundType then .ok ()
  else .error (.invalidBoundType element boundType memberType)

namespace Member

/-- The binding of one marker. Markers of other kinds make none. -/
def binding? (member : Member) (schema : Schema) (hierarchy : Hierarchy) :
    Marker → Except Failure (Option Binding)
  | .providesBinding boundType => do
    verifyBoundType member.element member.type.head boundType hierarchy
    return some {
      memberName := member.name
      memberType := member.type.head
      boundType := boundType
      owner := member.element.owner
      qualifiers := schema.qualifiers member.annotations }
  | _ => .ok none

/-- The bindings that the markers on a member ask for, or the first failure. -/
def bindings (member : Member) (schema : Schema) (hierarchy : Hierarchy) :
    Except Failure (List Binding) := do
  let markers ← schema.markers member.annotations .providesBinding member.element
  return (← markers.mapM (member.binding? schema hierarchy)).filterMap id

end Member

end Wiring
