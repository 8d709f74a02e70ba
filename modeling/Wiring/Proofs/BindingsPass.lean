import Wiring.Generator
import Wiring.Proofs.Closure
import Wiring.Proofs.FirstOccurrences
import Wiring.Proofs.Success

/-!
# The bindings of a class

When the file of the bindings of a class is made, and what stands in it.

* `ClassDeclaration.markedMembers_eq`, `ClassDeclaration.boundMembers_eq`: the marked members of a
  class in order, functions first;
* `Member.yields_bindings`, `ClassDeclaration.yields_bindings`: the bindings of a member and of a
  class, one for each marker;
* `ClassDeclaration.CanBind`, `ClassDeclaration.boundFile`: what a class has to satisfy, and the
  file that is made of it;
* **`generate_bindings`**: the file is made of the classes with a marked member that satisfy it.
-/

namespace Wiring

open Kotlin

/-! ## Marked members -/

namespace ClassDeclaration

variable (c : ClassDeclaration) (marker : QualifiedName)

/-- The functions with an annotation: those of the companion objects directly in a class, in order,
then those of the class itself. -/
def markedFunctions : List Member :=
  (c.nested.filter (·.kind = .companionObject) ++ [c]).flatMap fun holder =>
    (holder.functions.filter fun f => isAnnotatedWith f.annotations marker).map fun f =>
      ⟨⟨holder.name, some f.name⟩, .function, f.returnType, f.annotations⟩

/-- The properties with an annotation, in the same order. -/
def markedProperties : List Member :=
  (c.nested.filter (·.kind = .companionObject) ++ [c]).flatMap fun holder =>
    (holder.properties.filter fun p => isAnnotatedWith p.annotations marker).map fun p =>
      ⟨⟨holder.name, some p.name⟩, .property, p.type, p.annotations⟩

/-- **The marked members of a class are its marked functions, then its marked properties.** -/
theorem markedMembers_eq :
    c.markedMembers marker = c.markedFunctions marker ++ c.markedProperties marker := by
  unfold markedMembers members
  rw [List.filter_append, List.filter_flatMap, List.filter_flatMap]
  simp only [ownFunctions, ownProperties, List.filter_map]
  rfl

end ClassDeclaration

/-! ## The bindings of a member -/

theorem yields_requireCompanion (member : Member) (marker : QualifiedName)
    (accepted : List QualifiedName) :
    Yields (requireCompanion member marker accepted)
      (accepted.any (isAnnotatedWith member.annotations)) () := by
  intro result
  rw [requireCompanion]
  split <;> simp_all

theorem yields_verifyBoundType (element : Element) (memberType boundType : QualifiedName)
    (hierarchy : Hierarchy) :
    Yields (verifyBoundType element memberType boundType hierarchy)
      (boundType ≠ memberType ∧ hierarchy.Reaches memberType boundType) () := by
  intro result
  rw [verifyBoundType, ← hierarchy.isStrictSupertype_iff]
  split <;> simp_all

namespace Member

variable (member : Member) (schema : Schema) (hierarchy : Hierarchy)

/-- The binding of a member to a supertype of its type. -/
def bindingTo (bound : QualifiedName) : Binding where
  memberName := member.name
  memberType := member.type.head
  boundType := bound
  owner := member.element.owner
  qualifiers := schema.qualifiers member.annotations

/-- Whether a marker gives a strict supertype of the type of a member. -/
def CanBind (ann : Annotation) : Prop :=
  ∃ bound, ann.classArgument? "boundType" 0 = some bound ∧
    bound ≠ member.type.head ∧ hierarchy.Reaches member.type.head bound

theorem canBind_iff {ann : Annotation} :
    member.CanBind hierarchy ann ↔ (ann.classArgument? "boundType" 0).isSome ∧
      ann.givenClass "boundType" 0 ≠ member.type.head ∧
        hierarchy.Reaches member.type.head (ann.givenClass "boundType" 0) := by
  rw [CanBind, Annotation.givenClass]
  cases ann.classArgument? "boundType" 0 <;> simp

theorem yields_binding? (bound : QualifiedName) :
    Yields (member.binding? schema hierarchy (.providesBinding bound))
      (bound ≠ member.type.head ∧ hierarchy.Reaches member.type.head bound)
      (some (member.bindingTo schema bound)) :=
  (yields_verifyBoundType member.element member.type.head bound hierarchy).bind_pure fun _ =>
    some (member.bindingTo schema bound)

/-- The bindings of a member: one for each marker, and every marker has to give a strict supertype
of the type of the member. -/
theorem yields_bindings :
    Yields (member.bindings schema hierarchy)
      (∀ ann ∈ annotationsOf member.annotations schema.providesBinding,
        member.CanBind hierarchy ann)
      ((annotationsOf member.annotations schema.providesBinding).map
        fun ann => member.bindingTo schema (ann.givenClass "boundType" 0)) := by
  have hmarkers := schema.yields_markers member.annotations member.element
  unfold bindings
  generalize annotationsOf member.annotations schema.providesBinding = anns at hmarkers ⊢
  have hbindings : Yields
      ((anns.map fun ann => Marker.providesBinding (ann.givenClass "boundType" 0)).mapM
        (member.binding? schema hierarchy))
      (∀ ann ∈ anns, ann.givenClass "boundType" 0 ≠ member.type.head ∧
        hierarchy.Reaches member.type.head (ann.givenClass "boundType" 0))
      (anns.map fun ann => some (member.bindingTo schema (ann.givenClass "boundType" 0))) := by
    rw [List.mapM_map]
    exact .mapM fun ann _ => member.yields_binding? schema hierarchy (ann.givenClass "boundType" 0)
  refine (hmarkers.bind fun _ => hbindings.bind_pure (·.filterMap id)).congr ?_ fun _ => ?_
  · simp only [canBind_iff, forall_and]
  · simp [List.filterMap_map, List.filterMap_eq_map']

end Member

/-! ## The bindings of a class -/

/-- The property of a member that is bound to a supertype of its type. -/
def Member.boundProperty (member : Member) (schema : Schema) (bound : QualifiedName) :
    Property where
  name := member.name
  type := .ofClass bound
  receiver := some (.ofClass member.type.head)
  annotations :=
    let copies (site : UseSite) := (schema.qualifiers member.annotations).map fun qualifier =>
      (AnnotationUse.copyOf qualifier).onSite site
    [(AnnotationUse.ofName WellKnown.binds).onSite .getter] ++ copies .getter ++ copies .receiver

theorem Member.property_bindingTo (member : Member) (schema : Schema) (bound : QualifiedName) :
    (member.bindingTo schema bound).property = member.boundProperty schema bound := rfl

namespace ClassDeclaration

variable (c : ClassDeclaration) (context : Context)

/-- The members of a class that have a binding marker. -/
def boundMembers : List Member := c.markedMembers context.schema.providesBinding

theorem boundMembers_eq :
    c.boundMembers context = c.markedFunctions context.schema.providesBinding ++
      c.markedProperties context.schema.providesBinding :=
  c.markedMembers_eq context.schema.providesBinding

/-- What a class has to satisfy for its bindings to be made: its marked members provide values,
their markers give strict supertypes, and its annotations give the scopes to contribute to. -/
structure CanBind : Prop where
  provides : ∀ member ∈ c.boundMembers context,
    isAnnotatedWith member.annotations WellKnown.provides
  bound : ∀ member ∈ c.boundMembers context,
    ∀ ann ∈ annotationsOf member.annotations context.schema.providesBinding,
      member.CanBind context.hierarchy ann
  scopes : ∀ ann ∈ annotationsOf c.annotations WellKnown.contributesTo,
    ∃ scope, ann.classArgument? "scope" 0 = some scope

/-- The file of the bindings of a class: one interface, contributed to each scope of the class once,
with one property for each marker on each marked member. -/
def boundFile : SourceFile where
  package := c.package
  name := c.generatedName context.suffixes.bindings
  interfaces := [{
    name := c.generatedName context.suffixes.bindings
    annotations :=
      .ofName WellKnown.providerModule ::
        (((annotationsOf c.annotations WellKnown.contributesTo).map
          (·.givenClass "scope" 0)).eraseDups).map contributesTo
    properties := (c.boundMembers context).flatMap fun member =>
      (annotationsOf member.annotations context.schema.providesBinding).map fun ann =>
        member.boundProperty context.schema (ann.givenClass "boundType" 0)
    functions := [] }]

/-- The bindings of a class: those of its marked members, one after the other. -/
def boundBindings : List Binding :=
  (c.boundMembers context).flatMap fun member =>
    (annotationsOf member.annotations context.schema.providesBinding).map fun ann =>
      member.bindingTo context.schema (ann.givenClass "boundType" 0)

theorem yields_bindings :
    Yields (c.bindings context)
      (∀ member ∈ c.boundMembers context,
        isAnnotatedWith member.annotations WellKnown.provides ∧
          ∀ ann ∈ annotationsOf member.annotations context.schema.providesBinding,
            member.CanBind context.hierarchy ann)
      (c.boundBindings context) := by
  have hmember : ∀ member ∈ c.boundMembers context, Yields
      (do
        requireCompanion member context.schema.providesBinding [WellKnown.provides]
        member.bindings context.schema context.hierarchy) _ _ := fun member _ =>
    (yields_requireCompanion member context.schema.providesBinding [WellKnown.provides]).bind
      fun _ => member.yields_bindings context.schema context.hierarchy
  refine ((Yields.mapM hmember).bind_pure List.flatten).congr ?_ fun _ => ?_
  · simp
  · rw [boundBindings, List.flatMap_def]

/-- A class has bindings if it has marked members, as each of those has a marker. -/
theorem boundBindings_eq_nil : c.boundBindings context = [] ↔ c.boundMembers context = [] := by
  constructor
  · intro h
    rw [List.eq_nil_iff_forall_not_mem]
    intro member hmember
    have hnone := List.flatMap_eq_nil_iff.1 h member hmember
    rw [List.map_eq_nil_iff, annotationsOf_eq_nil] at hnone
    have hmarked := (List.mem_filter.1 hmember).2
    rw [hnone] at hmarked
    cases hmarked
  · intro h
    rw [boundBindings, h, List.flatMap_nil]

theorem bindingsFile_boundBindings :
    bindingsFile c (c.boundBindings context)
        (distinct ((annotationsOf c.annotations WellKnown.contributesTo).map
          (·.givenClass "scope" 0))) context.suffixes =
      c.boundFile context := by
  rw [bindingsFile, boundFile, boundBindings, List.map_flatMap, distinct_eq_eraseDups]
  simp only [List.map_map, Function.comp_def, Member.property_bindingTo]

theorem generateBindings_of_eq_nil (h : c.boundMembers context = []) :
    generateBindings c context = .ok none := by
  have hbindings := (c.yields_bindings context (c.boundBindings context)).2 ⟨by simp [h], rfl⟩
  rw [generateBindings, hbindings, (c.boundBindings_eq_nil context).2 h]
  rfl

theorem canBind_iff :
    ((∀ member ∈ c.boundMembers context,
        isAnnotatedWith member.annotations WellKnown.provides ∧
          ∀ ann ∈ annotationsOf member.annotations context.schema.providesBinding,
            member.CanBind context.hierarchy ann) ∧
      ∀ ann ∈ annotationsOf c.annotations WellKnown.contributesTo,
        (ann.classArgument? "scope" 0).isSome) ↔ c.CanBind context := by
  constructor
  · rintro ⟨hmembers, hscopes⟩
    exact ⟨fun m hm => (hmembers m hm).1, fun m hm => (hmembers m hm).2,
      fun ann hann => Option.isSome_iff_exists.1 (hscopes ann hann)⟩
  · intro h
    exact ⟨fun m hm => ⟨h.provides m hm, h.bound m hm⟩,
      fun ann hann => Option.isSome_iff_exists.2 (h.scopes ann hann)⟩

theorem yields_generateBindings (h : c.boundMembers context ≠ []) :
    Yields (generateBindings c context) (c.CanBind context) (some (c.boundFile context)) := by
  have hscopes := yields_contributedScopes c.annotations c.element
  have hfile := hscopes.bind_pure fun scopes =>
    some (bindingsFile c (c.boundBindings context) (distinct scopes) context.suffixes)
  rw [bindingsFile_boundBindings] at hfile
  have hne : (c.boundBindings context).isEmpty = false := by
    rw [List.isEmpty_eq_false_iff]
    exact mt (c.boundBindings_eq_nil context).1 h
  refine ((c.yields_bindings context).bind fun _ => ?_).congr (c.canBind_iff context) fun _ => rfl
  rw [hne]
  exact hfile

end ClassDeclaration

theorem bindings_generate (c : ClassDeclaration) (context : Context) :
    Generator.bindings.generate c context = .ofResult (generateBindings c context) := rfl

/-- **The bindings of a class.** Nothing is made of a class without marked members. Of any other one
a file is made if and only if the class satisfies what its markers ask for, and it is the file with
one property for each marker. -/
theorem generate_bindings (c : ClassDeclaration) (context : Context) :
    (Generator.bindings.generate c context = .nothing ↔ c.boundMembers context = []) ∧
    (∀ file, generateBindings c context = .ok (some file) ↔
      c.boundMembers context ≠ [] ∧ c.CanBind context ∧ file = c.boundFile context) ∧
    ∀ file, Generator.bindings.generate c context = .made file ↔
      c.boundMembers context ≠ [] ∧ c.CanBind context ∧
        file = (c.boundFile context).toGenerated := by
  rw [bindings_generate]
  by_cases h : c.boundMembers context = []
  · simp [c.generateBindings_of_eq_nil context h, h, Outcome.ofResult]
  · have hyields := c.yields_generateBindings context h
    by_cases hcan : c.CanBind context
    · have hok := (hyields _).2 ⟨hcan, rfl⟩
      simp [hok, h, hcan, Outcome.ofResult, eq_comm]
    · have hfailed : ∃ failure, generateBindings c context = .error failure := by
        cases hresult : generateBindings c context with
        | ok result => exact absurd ((hyields result).1 hresult).1 hcan
        | error failure => exact ⟨failure, rfl⟩
      obtain ⟨failure, hfailure⟩ := hfailed
      simp [hfailure, h, hcan, Outcome.ofResult]

/-- A class that contributes to two scopes, to one of them twice, with a companion object. In both
there are a function and a property that are bound to a supertype, and the function of the companion
object has a qualifier and is bound to two. -/
def boundModule : ClassDeclaration :=
  let contributes (scope : String) : Annotation :=
    ⟨WellKnown.contributesTo, [⟨none, .classLiteral ⟨scope⟩⟩], []⟩
  let provides (bound : List String) : List Annotation :=
    .ofName WellKnown.provides :: bound.map fun bound =>
      ⟨({} : Schema).providesBinding, [⟨none, .classLiteral ⟨bound⟩⟩], []⟩
  let main : Annotation := ⟨⟨"p.Main"⟩, [], [⟨"javax.inject.Qualifier"⟩]⟩
  let companion := { ClassDeclaration.ofName "p" "Net.Companion" with
    functions := [⟨"api", .ofClass ⟨"p.ApiImpl"⟩, main :: provides ["p.Api", "p.Closeable"]⟩]
    properties := [⟨"cache", .ofClass ⟨"p.CacheImpl"⟩, provides ["p.Cache"]⟩] }
  { (ClassDeclaration.ofName "p" "Net").withCompanion companion with
    annotations := [contributes "p.App", contributes "p.User", contributes "p.App"]
    functions := [⟨"log", .ofClass ⟨"p.Log"⟩, [.ofName WellKnown.provides]⟩,
      ⟨"repo", .ofClass ⟨"p.RepoImpl"⟩, provides ["p.Repo"]⟩]
    properties := [⟨"clock", .ofClass ⟨"p.ClockImpl"⟩, provides ["p.Clock"]⟩] }

/-- The supertypes of the types that the class binds. -/
def boundHierarchy : Hierarchy where
  edges := [(⟨"p.ApiImpl"⟩, [⟨"p.Api"⟩]), (⟨"p.Api"⟩, [⟨"p.Closeable"⟩]),
    (⟨"p.CacheImpl"⟩, [⟨"p.Cache"⟩]), (⟨"p.RepoImpl"⟩, [⟨"p.Repo"⟩]),
    (⟨"p.ClockImpl"⟩, [⟨"p.Clock"⟩])]

/-- Functions stand before properties, the companion object before the class, and the function with
two markers stands twice, each time with its qualifier on the getter and on the receiver. -/
theorem generate_bindings_boundModule :
    let context : Context := { hierarchy := boundHierarchy }
    let file := boundModule.boundFile context
    (boundModule.boundMembers context).map (·.element) =
        [⟨⟨"p.Net.Companion"⟩, some "api"⟩, ⟨⟨"p.Net"⟩, some "repo"⟩,
          ⟨⟨"p.Net.Companion"⟩, some "cache"⟩, ⟨⟨"p.Net"⟩, some "clock"⟩] ∧
      boundModule.CanBind context ∧
      Generator.bindings.generate boundModule context = .made file.toGenerated ∧
      file.interfaces.map (fun i => (i.name, i.annotations.length)) =
        [("NetAndBindsCodeGen", 3)] ∧
      (file.interfaces.flatMap (·.properties)).map
          (fun p => (p.name, p.receiver, p.type, p.annotations.map (·.name.text))) =
        [("api", some (.ofClass ⟨"p.ApiImpl"⟩), .ofClass ⟨"p.Api"⟩,
            ["dagger.Binds", "p.Main", "p.Main"]),
          ("api", some (.ofClass ⟨"p.ApiImpl"⟩), .ofClass ⟨"p.Closeable"⟩,
            ["dagger.Binds", "p.Main", "p.Main"]),
          ("repo", some (.ofClass ⟨"p.RepoImpl"⟩), .ofClass ⟨"p.Repo"⟩, ["dagger.Binds"]),
          ("cache", some (.ofClass ⟨"p.CacheImpl"⟩), .ofClass ⟨"p.Cache"⟩, ["dagger.Binds"]),
          ("clock", some (.ofClass ⟨"p.ClockImpl"⟩), .ofClass ⟨"p.Clock"⟩, ["dagger.Binds"])] := by
  intro context file
  have hmembers : ∀ member ∈ boundModule.boundMembers context,
      isAnnotatedWith member.annotations WellKnown.provides ∧
        ∀ ann ∈ annotationsOf member.annotations context.schema.providesBinding,
          member.CanBind context.hierarchy ann := by
    simp only [Member.canBind_iff, ← Hierarchy.isStrictSupertype_iff]
    decide
  have hcan : boundModule.CanBind context :=
    (boundModule.canBind_iff context).1 ⟨hmembers, by decide⟩
  have hne : boundModule.boundMembers context ≠ [] := by decide
  exact ⟨rfl, hcan,
    ((generate_bindings boundModule context).2.2 _).2 ⟨hne, hcan, rfl⟩, rfl, rfl⟩

end Wiring
