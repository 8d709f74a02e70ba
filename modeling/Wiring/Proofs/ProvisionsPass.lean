import Wiring.Generator
import Wiring.Proofs.BindingsPass
import Wiring.Proofs.Grouping
import Wiring.Settings.Validation

/-!
# The provisions of a class

When the file of the provisions of a class is made, and what stands in it.

* `Schema.markedProvisions`: the provisions that the markers on a class or on a member ask for;
* `ClassDeclaration.publishedMembers_eq`, `ClassDeclaration.toList_provisionName`: the published
  members in order, and the name of a published class;
* `ClassDeclaration.publishedRecords`, `ClassDeclaration.defaultScopes`: the provisions of a class
  and the scopes of those that have none;
* `ClassDeclaration.CanPublish`, `ClassDeclaration.publishedFile`: what a class has to satisfy, and
  the file that is made of it;
* **`generate_provisions`**: the file is made of the classes with a provision that satisfy it.
-/

namespace Wiring

open Kotlin

/-! ## The provisions of markers -/

namespace Schema

variable (schema : Schema)

/-- The scope that a publishing marker gives. The sentinel stands for none. -/
def givenScope? (ann : Annotation) : Option QualifiedName :=
  match ann.classArgument? "scope" 0 with
  | some scope => if scope = schema.scopeSentinel then none else some scope
  | none => none

/-- The name that a publishing marker gives, or else the given one. The empty name is none. -/
def givenName (ann : Annotation) (defaultName : String) : String :=
  match ann.stringArgument? "name" 1 with
  | some name => if name = "" then defaultName else name
  | none => defaultName

/-- The provisions of publishing markers: one for each, with the qualifiers beside them. -/
def markedProvisions (annotations : List Annotation) (defaultName : String) (type : TypeRef)
    (element : Element) : List Provision :=
  (annotationsOf annotations schema.contribution).map fun ann => {
    name := givenName ann defaultName
    type := type
    qualifiers := schema.qualifiers annotations
    scope := schema.givenScope? ann
    element := element }

theorem filter_classArgument? (ann : Annotation) :
    (ann.classArgument? "scope" 0).filter (· != schema.scopeSentinel) =
      schema.givenScope? ann := by
  rw [givenScope?]
  cases ann.classArgument? "scope" 0 with
  | none => rfl
  | some scope => by_cases h : scope = schema.scopeSentinel <;> simp [Option.filter, h]

theorem getD_filter_stringArgument? (ann : Annotation) (defaultName : String) :
    ((ann.stringArgument? "name" 1).filter (!·.isEmpty)).getD defaultName =
      givenName ann defaultName := by
  rw [givenName]
  cases ann.stringArgument? "name" 1 with
  | none => rfl
  | some name => by_cases h : name = "" <;> simp [Option.filter, h]

theorem kind?_eq_contribution (h : schema.hasDistinctMarkers) {ann : Annotation}
    (hann : ann.name = schema.contribution) : schema.kind? ann = some .contribution := by
  have hne : schema.providesBinding ≠ schema.contribution := by
    rw [hasDistinctMarkers, decide_eq_true_eq] at h
    simp only [MarkerKind.all, List.map_cons, markerName, List.nodup_cons, List.mem_cons,
      not_or] at h
    exact h.1.1
  simp [kind?, MarkerKind.all, markerName, hann, hne]

/-- The publishing markers among annotations can all be read. -/
theorem yields_provisions (h : schema.hasDistinctMarkers) (annotations : List Annotation)
    (defaultName : String) (type : TypeRef) (element : Element) :
    Yields (schema.provisions annotations defaultName type element) True
      (schema.markedProvisions annotations defaultName type element) := by
  -- A marker that has the name of the publishing one alone is read as one.
  have hparse : ∀ ann ∈ annotationsOf annotations schema.contribution,
      Yields (schema.parse ann element) True (some (.contribution
        ((ann.classArgument? "scope" 0).filter (· != schema.scopeSentinel))
        ((ann.stringArgument? "name" 1).filter (!·.isEmpty)))) := by
    intro ann hann
    have hname : ann.name = schema.contribution := by
      simpa [annotationsOf] using (List.mem_filter.1 hann).2
    rw [parse, schema.kind?_eq_contribution h hname]
    exact Yields.pure _
  have hmarkers := (Yields.mapM hparse).map fun markers => markers.filterMap id
  refine (hmarkers.bind_pure _).congr (by simp) fun _ => ?_
  rw [markedProvisions, List.filterMap_map, List.filterMap_filterMap]
  simp only [Function.comp_def, id_eq, Option.bind_some, Marker.provision?,
    filter_classArgument?, getD_filter_stringArgument?, List.filterMap_eq_map']

end Schema

/-! ## The provisions of a class -/

namespace ClassDeclaration

variable (c : ClassDeclaration) (context : Context)

/-- Whether a class is published itself. -/
abbrev IsPublished : Prop := isAnnotatedWith c.annotations context.schema.contribution

/-- The members of a class that have a publishing marker. -/
def publishedMembers : List Member := c.markedMembers context.schema.contribution

theorem publishedMembers_eq :
    c.publishedMembers context = c.markedFunctions context.schema.contribution ++
      c.markedProperties context.schema.contribution :=
  c.markedMembers_eq context.schema.contribution

/-- A class goes by its short name with the first letter in lower case. -/
theorem toList_provisionName :
    c.provisionName.toList = (c.name.shortName.toList.take 1).flatMap Text.lowerChar ++
      c.name.shortName.toList.drop 1 := by
  unfold provisionName Text.decapitalize
  cases c.name.shortName.toList with
  | nil => rfl
  | cons first rest => simp

/-- The provisions of a class: one for each marker on the class, if it has any, and otherwise one
for each marker on each marked member. -/
def publishedRecords : List Provision :=
  if c.IsPublished context then
    context.schema.markedProvisions c.annotations c.provisionName (.ofClass c.name) c.element
  else
    (c.publishedMembers context).flatMap fun member =>
      context.schema.markedProvisions member.annotations member.name member.type member.element

/-- The scopes of provisions without one: those that the class contributes to, unless the class is
published itself. -/
def defaultScopes : List QualifiedName :=
  if c.IsPublished context then []
  else (annotationsOf c.annotations WellKnown.contributesTo).map (·.givenClass "scope" 0)

/-- What a class has to satisfy for its provisions to be published: each has a scope to go to, and
if it is not published itself, its marked members provide or bind values and its annotations give
the scopes to contribute to. -/
structure CanPublish : Prop where
  provides : ¬c.IsPublished context → ∀ member ∈ c.publishedMembers context,
    isAnnotatedWith member.annotations WellKnown.provides ∨
      isAnnotatedWith member.annotations WellKnown.binds
  scopes : ¬c.IsPublished context → ∀ ann ∈ annotationsOf c.annotations WellKnown.contributesTo,
    ∃ scope, ann.classArgument? "scope" 0 = some scope
  targets : ∀ provision ∈ c.publishedRecords context,
    provision.HasTarget (c.defaultScopes context) context.scopePolicy

/-- The scopes that some provision of a class is published in, in the order of first
publication. -/
def publishedScopes : List QualifiedName :=
  ((c.publishedRecords context).flatMap (·.targets (c.defaultScopes context))).eraseDups

/-- The file of the provisions of a class: one interface for each scope, numbered from zero and
contributed to the scope, with one property for each provision that is published in the scope. -/
def publishedFile : SourceFile where
  package := c.package
  name := c.generatedName context.suffixes.provisions
  interfaces := (c.publishedScopes context).zipIdx.map fun (scope, k) => {
    name := c.generatedName context.suffixes.provisions ++ Nat.repr k ++ context.suffixes.component
    annotations := [contributesTo scope]
    properties := ((c.publishedRecords context).filter
      (·.IsPublishedIn (c.defaultScopes context) scope)).map fun provision => {
        name := provision.name
        type := .ofRef provision.type
        receiver := none
        annotations := provision.qualifiers.map fun qualifier =>
          (AnnotationUse.copyOf qualifier).onSite .getter }
    functions := [] }

theorem yields_memberProvisions (h : context.schema.hasDistinctMarkers)
    (hpublished : ¬c.IsPublished context) :
    Yields (c.memberProvisions context)
      (∀ member ∈ c.publishedMembers context,
        isAnnotatedWith member.annotations WellKnown.provides ∨
          isAnnotatedWith member.annotations WellKnown.binds)
      (c.publishedRecords context) := by
  have hmember : ∀ member ∈ c.publishedMembers context, Yields
      (do
        requireCompanion member context.schema.contribution [WellKnown.provides, WellKnown.binds]
        member.provisions context.schema) _ _ := fun member _ =>
    (yields_requireCompanion member context.schema.contribution
      [WellKnown.provides, WellKnown.binds]).bind fun _ =>
        context.schema.yields_provisions h member.annotations member.name member.type member.element
  refine ((Yields.mapM hmember).bind_pure List.flatten).congr ?_ fun _ => ?_
  · simp
  · rw [publishedRecords, if_neg hpublished, List.flatMap_def]

/-- A marked class or member has at least one marker. -/
theorem publishedRecords_eq_nil :
    c.publishedRecords context = [] ↔
      ¬c.IsPublished context ∧ c.publishedMembers context = [] := by
  rw [publishedRecords]
  split
  · next h =>
    rw [Schema.markedProvisions, List.map_eq_nil_iff, annotationsOf_eq_nil]
    simp_all [IsPublished]
  · next h =>
    rw [List.flatMap_eq_nil_iff]
    constructor
    · intro hnone
      refine ⟨h, List.eq_nil_iff_forall_not_mem.2 fun member hmember => ?_⟩
      have hmarkers := hnone member hmember
      rw [Schema.markedProvisions, List.map_eq_nil_iff, annotationsOf_eq_nil] at hmarkers
      have hmarked := (List.mem_filter.1 hmember).2
      rw [hmarkers] at hmarked
      cases hmarked
    · rintro ⟨-, hnone⟩
      simp [hnone]

theorem provisionsInterfaces_eq (base component : String) (index : Nat)
    (groups : List (QualifiedName × List Provision)) :
    provisionsInterfaces base component index groups =
      (groups.zipIdx index).map fun (group, k) =>
        provisionsInterface base component k group.1 group.2 := by
  induction groups generalizing index with
  | nil => rfl
  | cons group rest ih => rw [provisionsInterfaces, ih, List.zipIdx_cons, List.map_cons]

theorem provisionsFile_publishedGroups :
    provisionsFile c ⟨publishedGroups (c.defaultScopes context) (c.publishedRecords context)⟩
        context.suffixes = c.publishedFile context := by
  rw [provisionsFile, publishedFile, provisionsInterfaces_eq, publishedGroups, ← publishedScopes,
    List.zipIdx_map, List.map_map]
  rfl

/-- A class that is published itself has no default scopes. -/
theorem yields_of_isPublished (h : context.schema.hasDistinctMarkers)
    (hpublished : c.IsPublished context) :
    Yields (generateProvisions c context) (c.CanPublish context)
      (some (c.publishedFile context)) := by
  have hrecords : Yields (c.provisions context.schema) True (c.publishedRecords context) := by
    rw [publishedRecords, if_pos hpublished]
    exact context.schema.yields_provisions h c.annotations c.provisionName (.ofClass c.name)
      c.element
  have hscopes : c.defaultScopes context = [] := if_pos hpublished
  have hfile := (yields_groupByScope (c.publishedRecords context) (c.defaultScopes context)
    context.scopePolicy).bind_pure fun groups => some (provisionsFile c groups context.suffixes)
  rw [provisionsFile_publishedGroups, hscopes] at hfile
  rw [generateProvisions, if_pos hpublished]
  refine (hrecords.bind fun _ => hfile).congr ?_ fun _ => rfl
  rw [true_and, ← hscopes]
  exact ⟨fun htargets => ⟨absurd hpublished, absurd hpublished, htargets⟩, fun hcan => hcan.targets⟩

theorem canPublish_iff (hpublished : ¬c.IsPublished context) :
    ((∀ member ∈ c.publishedMembers context,
        isAnnotatedWith member.annotations WellKnown.provides ∨
          isAnnotatedWith member.annotations WellKnown.binds) ∧
      (∀ ann ∈ annotationsOf c.annotations WellKnown.contributesTo,
        (ann.classArgument? "scope" 0).isSome) ∧
      ∀ provision ∈ c.publishedRecords context,
        provision.HasTarget (c.defaultScopes context) context.scopePolicy) ↔
      c.CanPublish context := by
  constructor
  · rintro ⟨hmembers, hscopes, htargets⟩
    exact ⟨fun _ => hmembers, fun _ ann hann => Option.isSome_iff_exists.1 (hscopes ann hann),
      htargets⟩
  · intro h
    exact ⟨h.provides hpublished,
      fun ann hann => Option.isSome_iff_exists.2 (h.scopes hpublished ann hann), h.targets⟩

theorem yields_of_not_isPublished (h : context.schema.hasDistinctMarkers)
    (hpublished : ¬c.IsPublished context) (hne : c.publishedRecords context ≠ []) :
    Yields (generateProvisions c context) (c.CanPublish context)
      (some (c.publishedFile context)) := by
  have hscopes : Yields (contributedScopes c.annotations c.element) _ (c.defaultScopes context) :=
    (yields_contributedScopes c.annotations c.element).congr Iff.rfl fun _ =>
      (if_neg hpublished).symm
  have hfile := (yields_groupByScope (c.publishedRecords context) (c.defaultScopes context)
    context.scopePolicy).bind_pure fun groups => some (provisionsFile c groups context.suffixes)
  rw [provisionsFile_publishedGroups] at hfile
  rw [generateProvisions, if_neg hpublished]
  -- Without records the scopes of the class are not even read.
  have hempty : (c.publishedRecords context).isEmpty = false := List.isEmpty_eq_false_iff.2 hne
  refine ((c.yields_memberProvisions context h hpublished).bind fun _ => ?_).congr
    (c.canPublish_iff context hpublished) fun _ => rfl
  rw [hempty]
  exact hscopes.bind fun _ => hfile

theorem generateProvisions_of_eq_nil (h : context.schema.hasDistinctMarkers)
    (hnone : c.publishedRecords context = []) : generateProvisions c context = .ok none := by
  obtain ⟨hpublished, hmembers⟩ := (c.publishedRecords_eq_nil context).1 hnone
  have hrecords := (c.yields_memberProvisions context h hpublished _).2 ⟨by simp [hmembers], rfl⟩
  rw [generateProvisions, if_neg hpublished, hrecords, hnone]
  rfl

theorem yields_generateProvisions (h : context.schema.hasDistinctMarkers)
    (hne : c.publishedRecords context ≠ []) :
    Yields (generateProvisions c context) (c.CanPublish context)
      (some (c.publishedFile context)) := by
  by_cases hpublished : c.IsPublished context
  · exact c.yields_of_isPublished context h hpublished
  · exact c.yields_of_not_isPublished context h hpublished hne

end ClassDeclaration

/-- The outcome of work that gives a file on a condition. -/
theorem Outcome.ofResult_of_yields {work : Except Failure (Option SourceFile)} {condition : Prop}
    {source : SourceFile} (h : Yields work condition (some source)) :
    Outcome.ofResult work ≠ .nothing ∧
      ∀ file, Outcome.ofResult work = .made file ↔ condition ∧ file = source.toGenerated := by
  cases work with
  | error failure =>
    have hnot : ¬condition := fun hcondition => nomatch (h (some source)).2 ⟨hcondition, rfl⟩
    simp [Outcome.ofResult, hnot]
  | ok result =>
    obtain ⟨hcondition, rfl⟩ := (h result).1 rfl
    simp [Outcome.ofResult, hcondition, eq_comm]

theorem provisions_generate (c : ClassDeclaration) (context : Context) :
    Generator.provisions.generate c context = .ofResult (generateProvisions c context) := rfl

/-- **The provisions of a class.** Nothing is made of a class without provisions. Of any other one
a file is made if and only if each of its provisions can be published, and it is the file with an
interface for each scope that some provision is published in, in the order of first publication,
and in it a property for each provision that is published there. -/
theorem generate_provisions (c : ClassDeclaration) (context : Context)
    (h : context.schema.hasDistinctMarkers) :
    (Generator.provisions.generate c context = .nothing ↔ c.publishedRecords context = []) ∧
    (∀ file, generateProvisions c context = .ok (some file) ↔
      c.publishedRecords context ≠ [] ∧ c.CanPublish context ∧ file = c.publishedFile context) ∧
    ∀ file, Generator.provisions.generate c context = .made file ↔
      c.publishedRecords context ≠ [] ∧ c.CanPublish context ∧
        file = (c.publishedFile context).toGenerated := by
  rw [provisions_generate]
  by_cases hrecords : c.publishedRecords context = []
  · simp [c.generateProvisions_of_eq_nil context h hrecords, hrecords, Outcome.ofResult]
  · have hyields := c.yields_generateProvisions context h hrecords
    have hmade := Outcome.ofResult_of_yields hyields
    refine ⟨⟨fun hnothing => absurd hnothing hmade.1, fun hnone => absurd hnone hrecords⟩,
      fun file => ?_, fun file => ?_⟩
    · rw [hyields, Option.some.injEq, and_iff_right hrecords]
    · rw [hmade.2, and_iff_right hrecords]

/-- A class with two scopes, one of them given twice. A function of its companion object, with a
qualifier, is published there, and so is a property, which is published in a third scope as well,
under another name. -/
def sharedClient : ClassDeclaration :=
  let contributes (scope : String) : Annotation :=
    ⟨WellKnown.contributesTo, [⟨none, .classLiteral ⟨scope⟩⟩], []⟩
  let companion := { ClassDeclaration.ofName "p" "Net.Companion" with
    functions := [⟨"api", .ofClass ⟨"p.Api"⟩,
      [⟨⟨"p.Main"⟩, [], [⟨"javax.inject.Qualifier"⟩]⟩, .ofName WellKnown.binds,
        .ofName ({} : Schema).contribution]⟩] }
  { (ClassDeclaration.ofName "p" "Net").withCompanion companion with
    annotations := [contributes "p.App", contributes "p.User", contributes "p.App"]
    functions := [⟨"log", .ofClass ⟨"p.Log"⟩, [.ofName WellKnown.provides]⟩]
    properties := [⟨"client", .ofClass ⟨"p.Client"⟩,
      [.ofName WellKnown.provides,
        ⟨({} : Schema).contribution,
          [⟨none, .classLiteral WellKnown.unit⟩, ⟨none, .string ""⟩], []⟩,
        ⟨({} : Schema).contribution,
          [⟨some "name", .string "main"⟩, ⟨some "scope", .classLiteral ⟨"p.Login"⟩⟩], []⟩]⟩] }

/-- The same class, published itself in two scopes, in the second one under another name. -/
def publishedClient : ClassDeclaration :=
  { sharedClient with
    annotations := sharedClient.annotations ++
      [⟨({} : Schema).contribution, [⟨none, .classLiteral ⟨"p.Login"⟩⟩], []⟩,
        ⟨({} : Schema).contribution, [⟨none, .classLiteral ⟨"p.App"⟩⟩, ⟨none, .string "main"⟩], []⟩] }

/-- The members stand in the interfaces of both scopes, the function of the companion object first
and with its qualifier, and the property stands in a third one under its other name. If the class is
published itself, its members and the scopes that it contributes to do not count. -/
theorem generate_provisions_sharedClient :
    let context : Context := { hierarchy := .empty }
    let shared := sharedClient.publishedFile context
    let published := publishedClient.publishedFile context
    let content (file : SourceFile) := file.interfaces.map fun i =>
      (i.name, i.properties.map fun p => (p.name, p.annotations.map (·.name.text)))
    context.schema.hasDistinctMarkers ∧
      sharedClient.CanPublish context ∧ publishedClient.CanPublish context ∧
      generateProvisions sharedClient context = .ok (some shared) ∧
      generateProvisions publishedClient context = .ok (some published) ∧
      content shared =
        [("NetProvisionsCodeGen0Component", [("api", ["p.Main"]), ("client", [])]),
          ("NetProvisionsCodeGen1Component", [("api", ["p.Main"]), ("client", [])]),
          ("NetProvisionsCodeGen2Component", [("main", [])])] ∧
      content published =
        [("NetProvisionsCodeGen0Component", [("net", [])]),
          ("NetProvisionsCodeGen1Component", [("main", [])])] := by
  intro context shared published content
  have hmarkers : context.schema.hasDistinctMarkers := by decide
  have hshared : sharedClient.CanPublish context :=
    (sharedClient.canPublish_iff context (by decide)).1 (by decide)
  have hpublished : publishedClient.CanPublish context :=
    ⟨absurd (by decide), absurd (by decide), by decide⟩
  have hmade : ∀ c : ClassDeclaration, c.publishedRecords context ≠ [] → c.CanPublish context →
      generateProvisions c context = .ok (some (c.publishedFile context)) := fun c hne hcan =>
    ((generate_provisions c context hmarkers).2.1 _).2 ⟨hne, hcan, rfl⟩
  exact ⟨hmarkers, hshared, hpublished, hmade sharedClient (by decide) hshared,
    hmade publishedClient (by decide) hpublished, by decide, by decide⟩

end Wiring
