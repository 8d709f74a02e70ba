import Wiring.Proofs.FilesApart
import Wiring.Proofs.MarkerPlaces
import Wiring.Proofs.ProvisionsPass

/-!
# The files of bindings

The files of a run are those of the classes of which bindings are made, and files of the other
generators, in which no member is bound.

* `Pipeline.boundClasses`, `Pipeline.furtherFiles`: the classes of which a run makes bindings, and
  what else it makes;
* `Setup.files_boundClasses`: what the generator of bindings makes;
* `Kotlin.SourceFile.BindsNoMember`: files without a property that binds a member, as the other
  generators make them (`Setup.bindsNoMember_of_mem_furtherFiles`);
* **`Setup.perm_files`**: the files of a report.
-/

namespace Wiring

open Kotlin

/-! ## The classes of which bindings are made -/

theorem filterMap_eq_map_filter {α β : Type} {f : α → Option β} {p : α → Bool} {g : α → β}
    (h : ∀ a, f a = if p a then some (g a) else none) (list : List α) :
    list.filterMap f = (list.filter p).map g := by
  induction list with
  | nil => rfl
  | cons a rest ih =>
    rw [List.filterMap_cons, List.filter_cons, h, ih]
    cases p a <;> rfl

theorem ClassDeclaration.eq_boundFile {c : ClassDeclaration} {context : Context}
    {source : SourceFile} (h : generateBindings c context = .ok (some source)) :
    source = c.boundFile context := by
  by_cases hnone : c.boundMembers context = []
  · rw [c.generateBindings_of_eq_nil context hnone] at h
    cases h
  · exact Option.some.inj ((c.yields_generateBindings context hnone _).1 h).2

namespace Pipeline

variable (pipeline : Pipeline) (unit : CompilationUnit)

/-- The classes of which a run makes the file of bindings, each with its path. -/
def boundClasses : List (List Nat × ClassDeclaration) :=
  if pipeline.settings.toggles.isEnabled Generator.bindings.name &&
      !(pipeline.context unit).factoriesOnly then
    (unit.classPaths.filter fun entry =>
      isAnnotatedWith entry.2.annotations WellKnown.providerModule).filter fun entry =>
        (Generator.bindings.generate entry.2 (pipeline.context unit)).isMade
  else []

/-- The files that the other generators make. -/
def furtherFiles : List GeneratedFile :=
  ((pipeline.outcomes unit).filter (·.generator ≠ Generator.bindings.name)).filterMap
    ClassOutcome.file?

theorem boundClasses_sublist : (pipeline.boundClasses unit).Sublist unit.classPaths := by
  rw [boundClasses]
  split
  · exact List.filter_sublist.trans List.filter_sublist
  · exact List.nil_sublist _

theorem nodup_boundClasses : ((pipeline.boundClasses unit).map (·.1)).Nodup :=
  unit.nodup_classPaths.sublist ((pipeline.boundClasses_sublist unit).map _)

theorem mem_boundClasses {pipeline : Pipeline} {unit : CompilationUnit} {path : List Nat}
    {c : ClassDeclaration} (h : (path, c) ∈ pipeline.boundClasses unit) :
    unit.classAt? path = some c :=
  CompilationUnit.mem_classPaths.1 ((pipeline.boundClasses_sublist unit).subset h)

theorem filter_outcomes (name : String) :
    (pipeline.outcomes unit).filter (·.generator = name) =
      (pipeline.generators.filter (·.name = name)).flatMap fun generator =>
        (generator.outcomes unit (pipeline.context unit)).map fun made =>
          ⟨generator.name, made.1.name, made.2⟩ := by
  rw [outcomes]
  generalize pipeline.context unit = context
  induction pipeline.generators with
  | nil => rfl
  | cons generator rest ih =>
    rw [List.flatMap_cons, List.filter_append, ih, List.filter_cons, List.filter_map]
    by_cases hname : generator.name = name
    · simp [Function.comp_def, hname]
    · simp [Function.comp_def, hname]

end Pipeline

theorem Setup.filter_generators_bindings (hierarchy : Option Hierarchy) (settings : Settings) :
    (({ hierarchy := hierarchy } : Setup).pipeline settings).generators.filter
        (·.name = Generator.bindings.name) =
      if settings.toggles.isEnabled Generator.bindings.name then [Generator.bindings] else [] := by
  have hnames : Generator.builtin.filter (·.name = Generator.bindings.name) =
      [Generator.bindings] := by
    simp [Generator.builtin, Generator.bindings, Generator.provisions, Generator.autoWire,
      Generator.ofWork]
  simp only [pipeline, if_true, List.append_nil]
  rw [List.filter_comm, hnames, List.filter_singleton, Bool.cond_eq_ite]

/-- The file that is made of a class is the one with its bindings. -/
theorem bindings_file? (c : ClassDeclaration) (context : Context) :
    ClassOutcome.file? ⟨Generator.bindings.name, c.name, Generator.bindings.generate c context⟩ =
      if (Generator.bindings.generate c context).isMade then
        some (c.boundFile context).toGenerated
      else none := by
  rw [bindings_generate, ClassOutcome.file?]
  rcases hwork : generateBindings c context with failure | _ | source
  · rfl
  · rfl
  · rw [c.eq_boundFile hwork]
    rfl

theorem bindings_outcomes (unit : CompilationUnit) (context : Context) :
    ((Generator.bindings.outcomes unit context).map fun made =>
        (⟨Generator.bindings.name, made.1.name, made.2⟩ : ClassOutcome)) =
      if !context.factoriesOnly then
        (unit.classPaths.filter fun entry =>
          isAnnotatedWith entry.2.annotations WellKnown.providerModule).map fun entry =>
            ⟨Generator.bindings.name, entry.2.name, Generator.bindings.generate entry.2 context⟩
      else [] := by
  have happlicable : Generator.bindings.isApplicable context = !context.factoriesOnly := rfl
  have howners : Generator.bindings.owners unit context =
      unit.owners fun c => isAnnotatedWith c.annotations WellKnown.providerModule := rfl
  rw [Generator.outcomes, happlicable, howners, CompilationUnit.owners]
  split
  · simp only [List.map_map, Function.comp_def, Owner.declaration]
  · rfl

/-- The files of bindings are those of the classes of which they are made. -/
theorem Setup.files_boundClasses (hierarchy : Option Hierarchy) (settings : Settings)
    (unit : CompilationUnit) :
    let pipeline := ({ hierarchy := hierarchy } : Setup).pipeline settings
    ((pipeline.outcomes unit).filter (·.generator = Generator.bindings.name)).filterMap
        ClassOutcome.file? =
      (pipeline.boundClasses unit).map fun entry =>
        (entry.2.boundFile (pipeline.context unit)).toGenerated := by
  intro pipeline
  have hsettings : pipeline.settings = settings := rfl
  rw [pipeline.filter_outcomes, filter_generators_bindings, Pipeline.boundClasses, hsettings]
  by_cases henabled : settings.toggles.isEnabled Generator.bindings.name
  · rw [if_pos henabled, List.flatMap_singleton, bindings_outcomes, henabled, Bool.true_and]
    have hfiles := filterMap_eq_map_filter
      (fun entry : List Nat × ClassDeclaration => bindings_file? entry.2 (pipeline.context unit))
      (unit.classPaths.filter fun entry =>
        isAnnotatedWith entry.2.annotations WellKnown.providerModule)
    split
    · rw [List.filterMap_map]
      exact hfiles
    · rfl
  · rw [if_neg henabled, Bool.eq_false_iff.2 henabled]
    rfl

/-! ## Files without bindings of members -/

/-- No property of a file binds a member to a supertype of its type. -/
def Kotlin.SourceFile.BindsNoMember (source : SourceFile) : Prop :=
  ∀ i ∈ source.interfaces, ∀ property ∈ i.properties, ∀ member schema bound,
    property ≠ Member.boundProperty member schema bound

theorem bindsNoMember_of_receiver {source : SourceFile}
    (h : ∀ i ∈ source.interfaces, ∀ property ∈ i.properties, ∀ name,
      property.receiver ≠ some (.ofClass name)) : source.BindsNoMember := by
  intro i hi property hproperty member schema bound heq
  exact h i hi property hproperty member.type.head (heq ▸ rfl)

theorem bindsNoMember_provisionsFile (c : ClassDeclaration) (groups : ScopeGroups Provision)
    (suffixes : Suffixes) : (provisionsFile c groups suffixes).BindsNoMember := by
  refine bindsNoMember_of_receiver fun i hi property hproperty name hreceiver => ?_
  rw [provisionsFile, ClassDeclaration.provisionsInterfaces_eq] at hi
  obtain ⟨group, -, rfl⟩ := List.mem_map.1 hi
  obtain ⟨provision, -, rfl⟩ := List.mem_map.1 hproperty
  cases hreceiver

theorem bindsNoMember_autoWireFile (c : ClassDeclaration) (scope : QualifiedName)
    (suffixes : Suffixes) : (autoWireFile c scope suffixes).BindsNoMember := by
  refine bindsNoMember_of_receiver fun i hi property hproperty name hreceiver => ?_
  simp only [autoWireFile, List.mem_cons, List.not_mem_nil, or_false] at hi
  rcases hi with rfl | rfl
  · rw [List.mem_singleton.1 hproperty] at hreceiver
    cases hreceiver
  · cases hproperty

/-- The files of the other generators bind no members. -/
theorem Setup.bindsNoMember_of_mem_furtherFiles {hierarchy : Option Hierarchy}
    {settings : Settings} {unit : CompilationUnit} {file : GeneratedFile}
    (h : file ∈ (({ hierarchy := hierarchy } : Setup).pipeline settings).furtherFiles unit) :
    ∃ source : SourceFile, file = source.toGenerated ∧ source.BindsNoMember := by
  obtain ⟨outcome, houtcome, hfile⟩ := List.mem_filterMap.1 h
  obtain ⟨houtcome, hne⟩ := List.mem_filter.1 houtcome
  obtain ⟨generator, hgenerator, houtcome⟩ := List.mem_flatMap.1 houtcome
  obtain ⟨made, hmade, rfl⟩ := List.mem_map.1 houtcome
  have hwork := Generator.snd_of_mem_outcomes hmade
  have hmadeFile : made.2 = .made file := ClassOutcome.file?_eq_some.1 hfile
  rw [hmadeFile] at hwork
  have hbuiltin := (generators_sublist_builtin rfl settings).subset hgenerator
  rcases Generator.mem_builtin.1 hbuiltin with rfl | rfl | rfl
  · exact absurd rfl (of_decide_eq_true hne)
  · obtain ⟨source, hsource, rfl⟩ := Outcome.ofResult_eq_made hwork.symm
    obtain ⟨groups, rfl⟩ := eq_provisionsFile hsource
    exact ⟨_, rfl, bindsNoMember_provisionsFile made.1 groups _⟩
  · obtain ⟨source, hsource, rfl⟩ := Outcome.ofResult_eq_made hwork.symm
    obtain ⟨scope, rfl⟩ := eq_autoWireFile hsource
    exact ⟨_, rfl, bindsNoMember_autoWireFile made.1 scope _⟩

/-- A report has the files of bindings and those of the other generators. -/
theorem Setup.perm_files (hierarchy : Option Hierarchy) (settings : Settings)
    (unit : CompilationUnit) {report : Report}
    (hreport : (({ hierarchy := hierarchy } : Setup).pipeline settings).run? unit = some report) :
    let pipeline := ({ hierarchy := hierarchy } : Setup).pipeline settings
    let file := fun c : ClassDeclaration => c.boundFile (pipeline.context unit)
    report.files.Perm
      ((pipeline.boundClasses unit).map (fun entry => (file entry.2).toGenerated) ++
        pipeline.furtherFiles unit) := by
  intro pipeline file
  have hparts := (List.filter_append_perm
    (fun o : ClassOutcome => decide (o.generator = Generator.bindings.name))
    (pipeline.outcomes unit)).filterMap ClassOutcome.file?
  rw [List.filterMap_append, files_boundClasses] at hparts
  rw [eq_reference rfl hreport, Pipeline.furtherFiles]
  simp only [ne_eq, decide_not]
  exact (GeneratedFile.sortByName_perm _).trans hparts.symm

end Wiring
