import Wiring.Distinct
import Wiring.Marker
import Wiring.Member
import Wiring.ScopeGroups

/-!
# Provisions

A value that is published in a scope under a name. A marker on a member publishes the value of the
member, a marker on a class publishes the class.

* `Provision`, `Member.provisions`, `ClassDeclaration.provisions`;
* `ScopePolicy`, `groupByScope`: provisions by scope, where those without a scope of their own go to
  the scopes of the class.
-/

namespace Wiring

/-- A value that is published under a name, in the given scope if there is one. -/
structure Provision where
  name : String
  type : TypeRef
  qualifiers : List Annotation
  scope : Option QualifiedName
  element : Element

/-- The provision of one marker. Markers of other kinds make none. -/
def Marker.provision? (defaultName : String) (type : TypeRef) (qualifiers : List Annotation)
    (element : Element) : Marker → Option Provision
  | .contribution scope name => some ⟨name.getD defaultName, type, qualifiers, scope, element⟩
  | _ => none

/-- The provisions that the markers among annotations ask for, or the first failure. -/
def Schema.provisions (schema : Schema) (annotations : List Annotation) (defaultName : String)
    (type : TypeRef) (element : Element) : Except Failure (List Provision) := do
  let markers ← schema.markers annotations .contribution element
  return markers.filterMap
    (Marker.provision? defaultName type (schema.qualifiers annotations) element)

/-- The provisions of a member, by default under its name. -/
def Member.provisions (member : Member) (schema : Schema) : Except Failure (List Provision) :=
  schema.provisions member.annotations member.name member.type member.element

/-- The provisions of a class, by default under its short name with a small first letter. -/
def ClassDeclaration.provisions (c : ClassDeclaration) (schema : Schema) :
    Except Failure (List Provision) :=
  schema.provisions c.annotations c.provisionName c.asType c.element

/-! ## Grouping -/

/-- What a provision without a scope of its own does if the class contributes to several: it is
published in all of them, or it is an error. -/
inductive ScopePolicy where
  | fanOut
  | requireSingle
  deriving DecidableEq

/-- Publish one provision: in its own scope, or in the given distinct default scopes. -/
def publish (defaults : List QualifiedName) (policy : ScopePolicy)
    (groups : ScopeGroups Provision) (provision : Provision) :
    Except Failure (ScopeGroups Provision) :=
  match provision.scope, defaults, policy with
  | some scope, _, _ => .ok (groups.push scope provision)
  | none, [], _ => .error (.unresolvedScope provision.element)
  | none, _ :: _ :: _, .requireSingle => .error (.ambiguousScope provision.element defaults)
  | none, defaults, _ => .ok (groups.pushAll defaults provision)

/-- Provisions by scope, or the first failure. -/
def groupByScope (provisions : List Provision) (defaultScopes : List QualifiedName)
    (policy : ScopePolicy) : Except Failure (ScopeGroups Provision) :=
  provisions.foldlM (publish (distinct defaultScopes) policy) .empty

end Wiring
