import Wiring.Binding
import Wiring.GeneratedFile
import Wiring.Provision

/-!
# Generated interfaces

The source files that are made of bindings, of provisions and of a class whose members are injected.
A file has the name of the class with a suffix and lies in the package of the class.

* `Suffixes`: the suffixes of generated names;
* `bindingsFile`, `provisionsFile`, `autoWireFile`.
-/

namespace Wiring

open Kotlin

/-- The suffixes of generated names: of the three kinds of files, and of the interfaces for the two
roles. -/
structure Suffixes where
  bindings : String := "AndBindsCodeGen"
  provisions : String := "ProvisionsCodeGen"
  autoWire : String := "AICodeGen"
  module : String := "Module"
  component : String := "Component"
  deriving DecidableEq

/-- The annotation that contributes an interface to a scope. -/
def contributesTo (scope : QualifiedName) : AnnotationUse :=
  (AnnotationUse.ofName WellKnown.contributesTo).withMember (Code.classLiteral scope)

/-- The copies of qualifiers at a use site. -/
def qualifiersOn (site : UseSite) (qualifiers : List Annotation) : List AnnotationUse :=
  qualifiers.map fun qualifier => (AnnotationUse.copyOf qualifier).onSite site

/-- The property of a binding: the supertype is got from a receiver of the member's type, and both
carry the qualifiers. -/
def Binding.property (binding : Binding) : Property where
  name := binding.memberName
  type := .ofClass binding.boundType
  receiver := some (.ofClass binding.memberType)
  annotations := (AnnotationUse.ofName WellKnown.binds).onSite .getter ::
    (qualifiersOn .getter binding.qualifiers ++ qualifiersOn .receiver binding.qualifiers)

/-- The file of bindings: one module interface that is contributed to the scopes. -/
def bindingsFile (owner : ClassDeclaration) (bindings : List Binding)
    (scopes : List QualifiedName) (suffixes : Suffixes) : SourceFile :=
  let name := owner.generatedName suffixes.bindings
  { package := owner.package
    name := name
    interfaces := [{
      name := name
      annotations := .ofName WellKnown.providerModule :: scopes.map contributesTo
      properties := bindings.map Binding.property
      functions := [] }] }

/-- The property of a provision, with its qualifiers. -/
def Provision.property (provision : Provision) : Property where
  name := provision.name
  type := .ofRef provision.type
  receiver := none
  annotations := qualifiersOn .getter provision.qualifiers

/-- The interface of the provisions of a scope, numbered in the order of the scopes. -/
def provisionsInterface (base component : String) (index : Nat) (scope : QualifiedName)
    (provisions : List Provision) : Interface where
  name := base ++ Nat.repr index ++ component
  annotations := [contributesTo scope]
  properties := provisions.map Provision.property
  functions := []

/-- The interfaces of groups of provisions, of which the first one has the given number. -/
def provisionsInterfaces (base component : String) (index : Nat) :
    List (QualifiedName × List Provision) → List Interface
  | [] => []
  | group :: rest =>
    provisionsInterface base component index group.1 group.2 ::
      provisionsInterfaces base component (index + 1) rest

/-- The file of provisions: one component interface for each scope. -/
def provisionsFile (owner : ClassDeclaration) (groups : ScopeGroups Provision)
    (suffixes : Suffixes) : SourceFile :=
  let base := owner.generatedName suffixes.provisions
  { package := owner.package
    name := base
    interfaces := provisionsInterfaces base suffixes.component 0 groups.groups }

/-- The property that puts the injector of a class into the map of all injectors. -/
def injectorProperty (target : QualifiedName) : Property where
  name := "membersInjector"
  type := (TypeName.ofClass WellKnown.membersInjector).parameterizedBy [.star]
  receiver := some ((TypeName.ofClass WellKnown.membersInjector).parameterizedBy [.ofClass target])
  annotations := [
    (AnnotationUse.ofName WellKnown.binds).onSite .getter,
    (AnnotationUse.ofName WellKnown.intoMap).onSite .getter,
    ((AnnotationUse.ofName WellKnown.classKey).withMember (Code.classLiteral target)).onSite
      .getter]

/-- The function that injects the members of a class. -/
def injectFunction (target : QualifiedName) : Function where
  name := "inject"
  receiver := some (.ofClass target)
  returns := none
  annotations := []

/-- The file of a class whose members are injected: a module interface and a component interface. -/
def autoWireFile (target : ClassDeclaration) (scope : QualifiedName) (suffixes : Suffixes) :
    SourceFile :=
  let base := target.generatedName suffixes.autoWire
  { package := target.package
    name := base
    interfaces := [
      { name := base ++ suffixes.module
        annotations := [.ofName WellKnown.providerModule, contributesTo scope]
        properties := [injectorProperty target.name]
        functions := [] },
      { name := base ++ suffixes.component
        annotations := [contributesTo scope]
        properties := []
        functions := [injectFunction target.name] }] }

end Wiring
