import Wiring.Failure
import Wiring.WellKnown

/-!
# Marker annotations

The three annotations that ask for generated code, under names that can be set, and the annotations
that count as qualifiers.

* `MarkerKind`, `Marker`: the kinds of markers, and markers with what they say;
* `Schema`: the names, with `Schema.kind?`, `Schema.parse`, `Schema.markers`, `Schema.qualifiers`;
* `contributedScopes`: the scopes that a class contributes to.
-/

namespace Wiring

/-- The kinds of markers. -/
inductive MarkerKind where
  | providesBinding
  | contribution
  | autoWire
  deriving DecidableEq

namespace MarkerKind

/-- All kinds, in the order in which annotations are compared with them. -/
def all : List MarkerKind := [providesBinding, contribution, autoWire]

/-- The name of a kind. -/
def displayName : MarkerKind → String
  | providesBinding => "ProvidesBinding"
  | contribution => "Contribution"
  | autoWire => "AutoWire"

end MarkerKind

/-- A marker: bind a provided value to a supertype; publish a value in a scope, under a name; or
inject the members of a class in a scope. -/
inductive Marker where
  | providesBinding (boundType : QualifiedName)
  | contribution (scope : Option QualifiedName) (name : Option String)
  | autoWire (scope : QualifiedName)
  deriving DecidableEq

namespace Marker

/-- The kind of a marker. -/
def kind : Marker → MarkerKind
  | providesBinding _ => .providesBinding
  | contribution _ _ => .contribution
  | autoWire _ => .autoWire

end Marker

/-- The class given for a parameter that has to be given as a class. -/
def requiredClass (ann : Annotation) (parameter : String) (place : Nat)
    (element : Element) : Except Failure QualifiedName :=
  match ann.classArgument? parameter place with
  | some name => .ok name
  | none =>
    .error (.annotationInvalid element ann.name ("缺少类字面量参数 `" ++ parameter ++ "`"))

/-- The names of the marker annotations, the scope that stands for none, and the annotations whose
bearers are qualifiers. -/
structure Schema where
  providesBinding : QualifiedName := ⟨"lorn.codegen.annotations.ProvidesBinding"⟩
  contribution : QualifiedName := ⟨"lorn.codegen.annotations.Contribution"⟩
  autoWire : QualifiedName := ⟨"lorn.codegen.annotations.AutoWire"⟩
  scopeSentinel : QualifiedName := WellKnown.unit
  qualifierMetaAnnotations : List QualifiedName :=
    [⟨"javax.inject.Qualifier"⟩, ⟨"jakarta.inject.Qualifier"⟩]
  deriving DecidableEq

namespace Schema

/-- The annotation of a kind of markers. -/
def markerName (schema : Schema) : MarkerKind → QualifiedName
  | .providesBinding => schema.providesBinding
  | .contribution => schema.contribution
  | .autoWire => schema.autoWire

/-- The first kind of markers whose annotation this is. -/
def kind? (schema : Schema) (ann : Annotation) : Option MarkerKind :=
  MarkerKind.all.find? (schema.markerName · == ann.name)

/-- What an annotation says, read as a marker of a kind. The sentinel scope and the empty name count
as not given. -/
def parseAs (schema : Schema) (ann : Annotation) (element : Element) :
    MarkerKind → Except Failure Marker
  | .providesBinding => (requiredClass ann "boundType" 0 element).map .providesBinding
  | .contribution => .ok (.contribution
      ((ann.classArgument? "scope" 0).filter (· != schema.scopeSentinel))
      ((ann.stringArgument? "name" 1).filter (!·.isEmpty)))
  | .autoWire => (requiredClass ann "scope" 0 element).map .autoWire

/-- The marker that an annotation is, if it is one. -/
def parse (schema : Schema) (ann : Annotation) (element : Element) :
    Except Failure (Option Marker) :=
  match schema.kind? ann with
  | none => .ok none
  | some kind => (schema.parseAs ann element kind).map some

/-- The markers among annotations whose name is that of a kind, or the first failure. -/
def markers (schema : Schema) (annotations : List Annotation) (kind : MarkerKind)
    (element : Element) : Except Failure (List Marker) :=
  ((annotations.filter (·.name == schema.markerName kind)).mapM
    (schema.parse · element)).map (·.filterMap id)

/-- Whether an annotation is a qualifier. -/
def isQualifier (schema : Schema) (ann : Annotation) : Bool :=
  ann.carriesMeta schema.qualifierMetaAnnotations

/-- The qualifiers among annotations. -/
def qualifiers (schema : Schema) (annotations : List Annotation) : List Annotation :=
  annotations.filter schema.isQualifier

end Schema

/-- The scopes that annotations contribute to, or the first failure. -/
def contributedScopes (annotations : List Annotation) (element : Element) :
    Except Failure (List QualifiedName) :=
  (annotations.filter (·.name == WellKnown.contributesTo)).mapM (requiredClass · "scope" 0 element)

end Wiring
