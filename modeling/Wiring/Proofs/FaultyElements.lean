import Wiring.Proofs.DeclaredEdges
import Wiring.Proofs.RefusedProvisions
import Wiring.Proofs.Schedule

/-!
# Elements at fault

A failure of a standard generator names an element of the class that it works on: the class or one
of its companion objects, or a member of these that has the marker of the generator. Nothing has to
be guessed when a diagnostic is made of it.

* `FailsOnlyWith`, with `bind`, `map` and `mapM`: the failures that work may end with;
* `Failure.IsAt`, `failsAt_markers`, `Member.failsAt_bindings` and the like: the element that a part
  of the work is on is the one that its failures name;
* `ClassDeclaration.HasElement`, `hasElement_of_mem_markedMembers`: the elements of a class that a
  generator works on;
* `generateBindings_failsOnlyWith` and the like: the work of a generator on a class;
* **`failures_name_elements`**: the failures of all standard generators, and the diagnostics of a
  run with them.
-/

namespace Wiring

/-! ## Failures of work -/

/-- All failures that the work may end with satisfy a condition. -/
def FailsOnlyWith {ε α : Type} (work : Except ε α) (p : ε → Prop) : Prop :=
  ∀ failure, work = .error failure → p failure

namespace FailsOnlyWith

variable {ε α β : Type} {work : Except ε α} {p q : ε → Prop}

theorem ok (a : α) : FailsOnlyWith (.ok a) p := by
  intro failure h
  cases h

theorem error {failure : ε} (h : p failure) : FailsOnlyWith (.error failure : Except ε α) p := by
  intro other heq
  cases heq
  exact h

theorem mono (h : FailsOnlyWith work p) (hle : ∀ failure, p failure → q failure) :
    FailsOnlyWith work q := fun failure heq => hle failure (h failure heq)

/-- Work in two parts fails as the first part does, or as the second one does after it. -/
theorem bind {f : α → Except ε β} (h : FailsOnlyWith work p)
    (hf : ∀ a, work = .ok a → FailsOnlyWith (f a) p) : FailsOnlyWith (work >>= f) p := by
  cases work with
  | error failure => exact error (h failure rfl)
  | ok a => exact hf a rfl

theorem map (h : FailsOnlyWith work p) (f : α → β) : FailsOnlyWith (work.map f) p := by
  cases work with
  | error failure => exact error (h failure rfl)
  | ok a => exact ok (f a)

/-- Work on the members of a list fails as it does on one of them. -/
theorem mapM {f : α → Except ε β} {list : List α} (h : ∀ a ∈ list, FailsOnlyWith (f a) p) :
    FailsOnlyWith (list.mapM f) p := by
  induction list with
  | nil => exact ok []
  | cons a rest ih =>
    obtain ⟨ha, hrest⟩ := List.forall_mem_cons.1 h
    rw [List.mapM_cons]
    exact ha.bind fun b _ => (ih hrest).bind fun bs _ => ok (b :: bs)

end FailsOnlyWith

/-- What work on the members of a list gives is given by the work on one of them. -/
theorem mem_of_mapM_eq_ok {ε α β : Type} {f : α → Except ε β} {list : List α} {results : List β}
    (h : list.mapM f = .ok results) {b : β} (hb : b ∈ results) : ∃ a ∈ list, f a = .ok b := by
  induction list generalizing results with
  | nil =>
    cases h
    cases hb
  | cons a rest ih =>
    rw [List.mapM_cons] at h
    obtain ⟨first, hfirst, h⟩ := bind_eq_ok.1 h
    obtain ⟨others, hothers, h⟩ := bind_eq_ok.1 h
    cases h
    rcases List.mem_cons.1 hb with rfl | hb
    · exact ⟨a, List.mem_cons_self, hfirst⟩
    · obtain ⟨x, hx, heq⟩ := ih hothers hb
      exact ⟨x, List.mem_cons_of_mem a hx, heq⟩

/-! ## Work on one element -/

/-- A failure names an element. -/
def Failure.IsAt (element : Element) (failure : Failure) : Prop := failure.element? = some element

section

variable {schema : Schema} {element : Element} {annotations : List Annotation}

theorem failsAt_requiredClass (ann : Annotation) (parameter : String) (place : Nat) :
    FailsOnlyWith (requiredClass ann parameter place element) (Failure.IsAt element) := by
  rw [requiredClass]
  split
  · exact .ok _
  · exact .error rfl

theorem failsAt_contributedScopes :
    FailsOnlyWith (contributedScopes annotations element) (Failure.IsAt element) :=
  .mapM fun ann _ => failsAt_requiredClass ann "scope" 0

theorem failsAt_parse (ann : Annotation) :
    FailsOnlyWith (schema.parse ann element) (Failure.IsAt element) := by
  rw [Schema.parse]
  split
  · exact .ok none
  · next kind _ =>
    refine FailsOnlyWith.map ?_ some
    cases kind with
    | providesBinding => exact (failsAt_requiredClass ann "boundType" 0).map _
    | contribution => exact .ok _
    | autoWire => exact (failsAt_requiredClass ann "scope" 0).map _

theorem failsAt_markers (kind : MarkerKind) :
    FailsOnlyWith (schema.markers annotations kind element) (Failure.IsAt element) :=
  (FailsOnlyWith.mapM fun ann _ => failsAt_parse ann).map _

theorem failsAt_provisions (defaultName : String) (type : TypeRef) :
    FailsOnlyWith (schema.provisions annotations defaultName type element)
      (Failure.IsAt element) :=
  (failsAt_markers .contribution).bind fun _ _ => .ok _

/-- The provisions of annotations are at the element that has the annotations. -/
theorem element_of_mem_provisions {defaultName : String} {type : TypeRef}
    {provisions : List Provision}
    (h : schema.provisions annotations defaultName type element = .ok provisions)
    {provision : Provision} (hmem : provision ∈ provisions) : provision.element = element := by
  obtain ⟨markers, -, h⟩ := bind_eq_ok.1 h
  cases h
  obtain ⟨marker, -, hmarker⟩ := List.mem_filterMap.1 hmem
  cases marker <;> simp only [Marker.provision?, reduceCtorEq, Option.some.injEq] at hmarker
  rw [← hmarker]

/-- Grouping fails at one of the provisions. -/
theorem failsAt_groupByScope (provisions : List Provision) (defaults : List QualifiedName)
    (policy : ScopePolicy) :
    FailsOnlyWith (groupByScope provisions defaults policy)
      fun failure => ∃ provision ∈ provisions, failure.IsAt provision.element := by
  intro failure h
  obtain ⟨provision, hfirst, hrefusal⟩ := groupByScope_eq_error_iff.1 h
  refine ⟨provision, List.mem_of_find?_eq_some hfirst, ?_⟩
  have hscope : provision.scope = none := by simpa using List.find?_some hfirst
  rcases (Provision.refusal?_eq_some_iff hscope).1 hrefusal with ⟨-, rfl⟩ | ⟨-, -, rfl⟩
  · rfl
  · rfl

end

namespace Member

variable (member : Member)

theorem failsAt_requireCompanion (marker : QualifiedName) (accepted : List QualifiedName) :
    FailsOnlyWith (requireCompanion member marker accepted) (Failure.IsAt member.element) := by
  rw [requireCompanion]
  split
  · exact .ok ()
  · exact .error rfl

theorem failsAt_binding? (schema : Schema) (hierarchy : Hierarchy) (marker : Marker) :
    FailsOnlyWith (member.binding? schema hierarchy marker) (Failure.IsAt member.element) := by
  cases marker with
  | providesBinding bound =>
    refine FailsOnlyWith.bind ?_ fun _ _ => .ok _
    rw [verifyBoundType]
    split
    · exact .ok ()
    · exact .error rfl
  | contribution scope name => exact .ok none
  | autoWire scope => exact .ok none

theorem failsAt_bindings (schema : Schema) (hierarchy : Hierarchy) :
    FailsOnlyWith (member.bindings schema hierarchy) (Failure.IsAt member.element) :=
  (failsAt_markers .providesBinding).bind fun _ _ =>
    (FailsOnlyWith.mapM fun marker _ => member.failsAt_binding? schema hierarchy marker).bind
      fun _ _ => .ok _

end Member

/-! ## Work on a class -/

namespace ClassDeclaration

/-- Whether a class itself declares a function or a property of a name that has a marker. -/
def DeclaresMarked (c : ClassDeclaration) (marker : QualifiedName) (name : String) : Prop :=
  (∃ f ∈ c.functions, f.name = name ∧ isAnnotatedWith f.annotations marker) ∨
    ∃ p ∈ c.properties, p.name = name ∧ isAnnotatedWith p.annotations marker

/-- An element of a class: the class or a companion object directly in it, or a marked member that
is declared there. -/
def HasElement (c : ClassDeclaration) (marker : QualifiedName) (element : Element) : Prop :=
  ∃ holder, (holder = c ∨ holder ∈ c.nested ∧ holder.kind = .companionObject) ∧
    element.owner = holder.name ∧
      ∀ name, element.member = some name → holder.DeclaresMarked marker name

variable (c : ClassDeclaration) {marker : QualifiedName}

theorem hasElement_self : c.HasElement marker c.element :=
  ⟨c, .inl rfl, rfl, fun _ h => nomatch h⟩

theorem hasElement_of_mem_markedMembers {c : ClassDeclaration} {member : Member}
    (h : member ∈ c.markedMembers marker) : c.HasElement marker member.element := by
  obtain ⟨hmember, hmarked⟩ := List.mem_filter.1 h
  have hholder : ∀ holder ∈ c.holders,
      holder = c ∨ holder ∈ c.nested ∧ holder.kind = .companionObject := by
    intro holder hmem
    simpa [holders, companions, or_comm] using hmem
  rcases List.mem_append.1 hmember with hmember | hmember
  · obtain ⟨holder, hmem, hown⟩ := List.mem_flatMap.1 hmember
    obtain ⟨f, hf, rfl⟩ := List.mem_map.1 hown
    refine ⟨holder, hholder holder hmem, rfl, fun name hname => .inl ⟨f, hf, ?_, hmarked⟩⟩
    exact Option.some.inj hname
  · obtain ⟨holder, hmem, hown⟩ := List.mem_flatMap.1 hmember
    obtain ⟨p, hp, rfl⟩ := List.mem_map.1 hown
    refine ⟨holder, hholder holder hmem, rfl, fun name hname => .inr ⟨p, hp, ?_, hmarked⟩⟩
    exact Option.some.inj hname

end ClassDeclaration

/-- A failure names an element of a class. -/
def Failure.IsIn (c : ClassDeclaration) (marker : QualifiedName) (failure : Failure) : Prop :=
  ∃ element, failure.element? = some element ∧ c.HasElement marker element

section

variable (c : ClassDeclaration) (context : Context)

theorem Failure.IsAt.isIn_of_mem {c : ClassDeclaration} {marker : QualifiedName} {member : Member}
    (h : member ∈ c.markedMembers marker) (failure : Failure)
    (hat : failure.IsAt member.element) : failure.IsIn c marker :=
  ⟨member.element, hat, ClassDeclaration.hasElement_of_mem_markedMembers h⟩

theorem Failure.IsAt.isIn {c : ClassDeclaration} {marker : QualifiedName} (failure : Failure)
    (hat : failure.IsAt c.element) : failure.IsIn c marker :=
  ⟨c.element, hat, c.hasElement_self⟩

theorem generateBindings_failsOnlyWith :
    FailsOnlyWith (generateBindings c context)
      (Failure.IsIn c context.schema.providesBinding) := by
  have hmember : ∀ member ∈ c.markedMembers context.schema.providesBinding, FailsOnlyWith
      (do
        requireCompanion member context.schema.providesBinding [WellKnown.provides]
        member.bindings context.schema context.hierarchy)
      (Failure.IsIn c context.schema.providesBinding) := fun member hmember =>
    FailsOnlyWith.bind
      ((member.failsAt_requireCompanion _ _).mono (Failure.IsAt.isIn_of_mem hmember))
      fun _ _ => (member.failsAt_bindings _ _).mono (Failure.IsAt.isIn_of_mem hmember)
  have hbindings : FailsOnlyWith (c.bindings context) _ :=
    (FailsOnlyWith.mapM hmember).bind fun _ _ => .ok _
  refine hbindings.bind fun bindings _ => ?_
  split
  · exact .ok none
  · exact (failsAt_contributedScopes.mono Failure.IsAt.isIn).bind fun _ _ => .ok _

theorem memberProvisions_failsOnlyWith :
    FailsOnlyWith (c.memberProvisions context) (Failure.IsIn c context.schema.contribution) := by
  have hmember : ∀ member ∈ c.markedMembers context.schema.contribution, FailsOnlyWith
      (do
        requireCompanion member context.schema.contribution [WellKnown.provides, WellKnown.binds]
        member.provisions context.schema)
      (Failure.IsIn c context.schema.contribution) := fun member hmember =>
    FailsOnlyWith.bind
      ((member.failsAt_requireCompanion _ _).mono (Failure.IsAt.isIn_of_mem hmember))
      fun _ _ => (failsAt_provisions _ _).mono (Failure.IsAt.isIn_of_mem hmember)
  exact (FailsOnlyWith.mapM hmember).bind fun _ _ => .ok _

/-- The provisions of a class keep the elements of the members that they come from. -/
theorem hasElement_of_mem_memberProvisions {c : ClassDeclaration} {context : Context}
    {provisions : List Provision} (h : c.memberProvisions context = .ok provisions)
    {provision : Provision} (hmem : provision ∈ provisions) :
    c.HasElement context.schema.contribution provision.element := by
  obtain ⟨lists, hlists, h⟩ := bind_eq_ok.1 h
  cases h
  obtain ⟨list, hlist, hmem⟩ := List.mem_flatten.1 hmem
  obtain ⟨member, hmember, hwork⟩ := mem_of_mapM_eq_ok hlists hlist
  obtain ⟨-, -, hwork⟩ := bind_eq_ok.1 hwork
  rw [element_of_mem_provisions hwork hmem]
  exact ClassDeclaration.hasElement_of_mem_markedMembers hmember

/-- A class that is marked itself has no failures but at the class. -/
theorem generateProvisions_failsAt
    (h : isAnnotatedWith c.annotations context.schema.contribution) :
    FailsOnlyWith (generateProvisions c context) (Failure.IsAt c.element) := by
  rw [generateProvisions, if_pos h]
  have hprovisions : FailsOnlyWith (c.provisions context.schema) (Failure.IsAt c.element) :=
    failsAt_provisions _ _
  refine hprovisions.bind fun provisions hok => ?_
  refine FailsOnlyWith.bind ?_ fun _ _ => .ok _
  refine (failsAt_groupByScope provisions _ _).mono ?_
  rintro failure ⟨provision, hmem, hat⟩
  rwa [element_of_mem_provisions hok hmem] at hat

theorem generateProvisions_failsOnlyWith :
    FailsOnlyWith (generateProvisions c context) (Failure.IsIn c context.schema.contribution) := by
  by_cases h : isAnnotatedWith c.annotations context.schema.contribution
  · exact (generateProvisions_failsAt c context h).mono Failure.IsAt.isIn
  · rw [generateProvisions, if_neg h]
    refine (memberProvisions_failsOnlyWith c context).bind fun provisions hok => ?_
    split
    · exact .ok none
    · refine (failsAt_contributedScopes.mono Failure.IsAt.isIn).bind fun scopes _ => ?_
      refine FailsOnlyWith.bind ?_ fun _ _ => .ok _
      refine (failsAt_groupByScope provisions _ _).mono ?_
      rintro failure ⟨provision, hmem, hat⟩
      exact ⟨provision.element, hat, hasElement_of_mem_memberProvisions hok hmem⟩

theorem generateAutoWire_failsAt :
    FailsOnlyWith (generateAutoWire c context) (Failure.IsAt c.element) := by
  refine (failsAt_markers .autoWire).bind fun markers _ => ?_
  split
  · exact .ok _
  · exact .error rfl

end

/-! ## Generators and runs -/

theorem Outcome.ofResult_eq_failed {work : Except Failure (Option Kotlin.SourceFile)}
    {failure : Failure} : Outcome.ofResult work = .failed failure ↔ work = .error failure := by
  rcases work with other | _ | file <;> simp [Outcome.ofResult]

/-- A diagnostic of the work in sequence comes from a failure of a generator on a class of the
unit. -/
theorem Pipeline.exists_failed_of_mem_diagnostics {pipeline : Pipeline} {unit : CompilationUnit}
    (h : ∀ generator ∈ pipeline.generators, generator.Sound) {diagnostic : Diagnostic}
    (hmem : diagnostic ∈ (pipeline.reference unit).diagnostics) :
    ∃ generator ∈ pipeline.generators, ∃ c ∈ unit.allClasses, ∃ failure,
      generator.generate c (pipeline.context unit) = .failed failure ∧
        diagnostic = ⟨generator.name, some (failure.element?.getD c.element), failure.message⟩ := by
  obtain ⟨made, hmade, hdiagnostic⟩ := List.mem_filterMap.1 hmem
  obtain ⟨generator, hgenerator, hmade⟩ := List.mem_flatMap.1 hmade
  obtain ⟨outcome, houtcome, rfl⟩ := List.mem_map.1 hmade
  rw [Generator.outcomes] at houtcome
  split at houtcome
  · obtain ⟨owner, howner, rfl⟩ := List.mem_map.1 houtcome
    obtain ⟨path, c, rfl, hpath⟩ := (h generator hgenerator).owner_mem _ _ owner howner
    refine ⟨generator, hgenerator, c, (unit.mem_allClasses).2 ⟨path, hpath⟩, ?_⟩
    rw [ClassOutcome.diagnostic?] at hdiagnostic
    split at hdiagnostic
    · next failure hfailed => exact ⟨failure, hfailed, (Option.some.inj hdiagnostic).symm⟩
    · cases hdiagnostic
  · cases houtcome

/-- **Failures name the element at fault.** It is the class, or one of its companion objects, or a
member of these that has the marker of the generator; failures of injection, and those of provisions
for a class that is marked itself, are at the class. So every diagnostic of a run with the standard
generators is at the element that a failure on one of the classes names. -/
theorem failures_name_elements :
    (∀ c context failure, Generator.bindings.generate c context = .failed failure →
      failure.IsIn c context.schema.providesBinding) ∧
    (∀ c context failure, Generator.provisions.generate c context = .failed failure →
      failure.IsIn c context.schema.contribution ∧
        (isAnnotatedWith c.annotations context.schema.contribution → failure.IsAt c.element)) ∧
    (∀ c context failure, Generator.autoWire.generate c context = .failed failure →
      failure.IsAt c.element) ∧
    ∀ setup : Setup, setup.furtherGenerators = [] → ∀ settings unit report,
      (setup.pipeline settings).run? unit = some report → ∀ diagnostic ∈ report.diagnostics,
        ∃ generator ∈ Generator.builtin, ∃ c ∈ unit.allClasses, ∃ failure element,
          generator.generate c ((setup.pipeline settings).context unit) = .failed failure ∧
          failure.IsAt element ∧
          diagnostic = ⟨generator.name, some element, failure.message⟩ := by
  have hbindings : ∀ c context failure, Generator.bindings.generate c context = .failed failure →
      failure.IsIn c context.schema.providesBinding := fun c context failure h =>
    generateBindings_failsOnlyWith c context failure (Outcome.ofResult_eq_failed.1 h)
  have hprovisions : ∀ c context failure,
      Generator.provisions.generate c context = .failed failure →
        failure.IsIn c context.schema.contribution := fun c context failure h =>
    generateProvisions_failsOnlyWith c context failure (Outcome.ofResult_eq_failed.1 h)
  have hautoWire : ∀ c context failure, Generator.autoWire.generate c context = .failed failure →
      failure.IsAt c.element := fun c context failure h =>
    generateAutoWire_failsAt c context failure (Outcome.ofResult_eq_failed.1 h)
  refine ⟨hbindings, fun c context failure h => ⟨hprovisions c context failure h, fun hmarked =>
    generateProvisions_failsAt c context hmarked failure (Outcome.ofResult_eq_failed.1 h)⟩,
    hautoWire, fun setup hsetup settings unit report hreport diagnostic hmem => ?_⟩
  have hstandard := Setup.generators_sublist_builtin hsetup settings
  rw [Setup.eq_reference hsetup hreport] at hmem
  obtain ⟨generator, hgenerator, c, hc, failure, hfailed, rfl⟩ :=
    Pipeline.exists_failed_of_mem_diagnostics
      (fun _ h => Setup.sound_of_mem_generators hsetup h) hmem
  have hbuiltin := hstandard.subset hgenerator
  have hat : ∃ element, failure.IsAt element := by
    rcases Generator.mem_builtin.1 hbuiltin with rfl | rfl | rfl
    · exact (hbindings c _ failure hfailed).imp fun _ h => h.1
    · exact (hprovisions c _ failure hfailed).imp fun _ h => h.1
    · exact ⟨_, hautoWire c _ failure hfailed⟩
  obtain ⟨element, hat⟩ := hat
  refine ⟨generator, hbuiltin, c, hc, failure, element, hfailed, hat, ?_⟩
  rw [show failure.element? = some element from hat, Option.getD_some]

/-- A class that binds a function of its companion object which provides no value, publishes a
property without a scope to go to, and is injected without a scope. -/
def faultyUnit : CompilationUnit :=
  let companion := (ClassDeclaration.ofName "p" "Net.Companion").withFunction
    ⟨"repo", .ofClass ⟨"p.RepoImpl"⟩,
      [⟨({} : Schema).providesBinding, [⟨none, .classLiteral ⟨"p.Repository"⟩⟩], []⟩]⟩
  let net := ((ClassDeclaration.ofName "p" "Net").withCompanion companion).withProperty
    ⟨"client", .ofClass ⟨"p.Client"⟩,
      [.ofName WellKnown.provides, .ofName ({} : Schema).contribution]⟩
  CompilationUnit.empty.withClass ((net.annotate (.ofName WellKnown.providerModule)).annotate
    (.ofName ({} : Schema).autoWire))

/-- The three diagnostics are at the function of the companion object, at the property and at the
class. -/
theorem failures_name_elements_faulty :
    ∃ report, (({} : Setup).pipeline {}).run? faultyUnit = some report ∧
      report.diagnostics.map (fun d => (d.generator, d.element)) =
        [("bindings", some ⟨⟨"p.Net.Companion"⟩, some "repo"⟩),
          ("provisions", some ⟨⟨"p.Net"⟩, some "client"⟩), ("auto_wire", some ⟨⟨"p.Net"⟩, none⟩)] ∧
      ∀ diagnostic ∈ report.diagnostics,
        ∃ generator ∈ Generator.builtin, ∃ c ∈ faultyUnit.allClasses, ∃ failure element,
          generator.generate c ((({} : Setup).pipeline {}).context faultyUnit) = .failed failure ∧
          failure.IsAt element ∧
          diagnostic = ⟨generator.name, some element, failure.message⟩ := by
  have hrun : (({} : Setup).pipeline {}).run? faultyUnit =
      some ((({} : Setup).pipeline {}).reference faultyUnit) :=
    Setup.run?_eq {} rfl (by decide) (by decide) faultyUnit
  exact ⟨_, hrun, by decide, failures_name_elements.2.2.2 {} rfl {} faultyUnit _ hrun⟩

end Wiring
