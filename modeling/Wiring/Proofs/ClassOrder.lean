import Mathlib.Data.List.Perm.Basic
import Wiring.Proofs.Isolation

/-!
# The order of top-level classes

The order in which a unit declares its classes decides nothing but the order in which the work on
them is done: the hierarchy of the unit has the same edges, and the classes that are picked are the
same.

* `CompilationUnit.allClasses_perm`: all classes, nested ones included, in another order;
* `Hierarchy.agrees_ofUnit`: the tables of units with the same classes;
* `Generator.outcomes_perm`, `Pipeline.outcomes_perm`: what is made of the classes;
* **`report_of_reordered_classes`**: a report has the same diagnostics in some order, and the same
  files in the same order if each of them has a name of its own.
-/

namespace Wiring

/-! ## All classes of a unit -/

theorem ClassDeclaration.families_eq_flatMap (classes : List ClassDeclaration) :
    families classes = classes.flatMap family := by
  induction classes with
  | nil => rfl
  | cons c rest ih => rw [families, List.flatMap_cons, ih]

namespace CompilationUnit

theorem allClasses_perm {unit unit' : CompilationUnit} (h : unit.classes.Perm unit'.classes) :
    unit.allClasses.Perm unit'.allClasses := by
  unfold allClasses
  rw [ClassDeclaration.families_eq_flatMap, ClassDeclaration.families_eq_flatMap]
  exact h.flatMap_right _

theorem map_declaration_owners (unit : CompilationUnit) (picks : ClassDeclaration → Bool) :
    (unit.owners picks).map Owner.declaration = unit.allClasses.filter picks := by
  rw [← unit.map_snd_classPaths, List.filter_map, owners, List.map_map]
  rfl

end CompilationUnit

/-- The tables of units with the same classes agree, if types declared elsewhere have the same
supertypes. -/
theorem Hierarchy.agrees_ofUnit {unit unit' : CompilationUnit}
    (hclasses : unit.allClasses.Perm unit'.allClasses)
    (hexternal : unit.externalSupertypes = unit'.externalSupertypes) :
    (ofUnit unit).Agrees (ofUnit unit') := by
  have hdeclared := hclasses.map fun c => (c.name, c.supertypes)
  have hentries := hdeclared.append_left unit'.externalSupertypes.entries
  refine agrees_of_supertypes fun type candidate => ?_
  unfold ofUnit
  rw [hexternal, mem_supertypes_foldl_add, mem_supertypes_foldl_add]
  simp only [hentries.mem_iff]

/-! ## What is made of the classes -/

theorem Generator.outcomes_perm {generator : Generator} {a b : Context}
    (h : generator.ActsAlike a b) {unit unit' : CompilationUnit}
    (hclasses : unit.allClasses.Perm unit'.allClasses) :
    (generator.outcomes unit a).Perm (generator.outcomes unit' b) := by
  obtain ⟨picks, hpicks⟩ := h.owners_eq
  have hpicked : ((generator.owners unit a).map Owner.declaration).Perm
      ((generator.owners unit' b).map Owner.declaration) := by
    rw [(hpicks unit).1, (hpicks unit').2, unit.map_declaration_owners,
      unit'.map_declaration_owners]
    exact hclasses.filter picks
  have hmade := hpicked.map fun c => (c, generator.generate c b)
  rw [List.map_map, List.map_map] at hmade
  unfold outcomes
  rw [h.isApplicable_eq]
  split
  · simp only [h.generate_eq]
    exact hmade
  · exact List.Perm.refl []

theorem Pipeline.outcomes_perm {pipeline : Pipeline}
    (hgenerators : pipeline.generators.Sublist Generator.builtin) {unit unit' : CompilationUnit}
    (hcontexts : (pipeline.context unit).Agrees (pipeline.context unit'))
    (hclasses : unit.allClasses.Perm unit'.allClasses) :
    (pipeline.outcomes unit).Perm (pipeline.outcomes unit') := by
  refine List.Perm.flatMap_left _ fun generator hgenerator => ?_
  have halike := Generator.actsAlike_of_mem_builtin hcontexts (hgenerators.subset hgenerator)
  exact (Generator.outcomes_perm halike hclasses).map _

/-! ## Two runs -/

/-- A run has no job if nothing comes of it. -/
theorem Pipeline.jobs_eq_nil_iff {pipeline : Pipeline} {unit : CompilationUnit}
    (h : ∀ generator ∈ pipeline.generators, generator.Sound) :
    (pipeline.plan unit).jobs = [] ↔ pipeline.outcomes unit = [] := by
  rw [outcomes, ← Plan.outcomes_make unit (pipeline.context unit) h, List.map_eq_nil_iff, plan]

/-- **The order of the top-level classes does not matter.** A run on a unit with its classes in
another order has a report if and only if the run on the unit has one. The diagnostics are the same
but for their order, and the files are the same in the same order if no two of them share package
and name. If at least one task is allowed, there is a report unless the tasks cannot be kept count
of. -/
theorem report_of_reordered_classes (settings : Settings) (hierarchy : Option Hierarchy)
    (unit : CompilationUnit) (classes : List ClassDeclaration)
    (hclasses : classes.Perm unit.classes) :
    let pipeline := ({ hierarchy := hierarchy } : Setup).pipeline settings
    let reordered : CompilationUnit := { unit with classes := classes }
    (∀ report, pipeline.run? unit = some report → ∃ report',
      pipeline.run? reordered = some report' ∧
      report'.diagnostics.Perm report.diagnostics ∧
      ((report.files.map fun file => (file.package, file.fileName)).Nodup →
        report'.files = report.files)) ∧
    (pipeline.run? unit = none → pipeline.run? reordered = none) ∧
    (1 ≤ settings.maxTasks →
      ((∃ report, pipeline.run? unit = some report) ↔ settings.maxTasks ≤ taskLimit)) := by
  intro pipeline reordered
  have hall : reordered.allClasses.Perm unit.allClasses := CompilationUnit.allClasses_perm hclasses
  have hhierarchy : (pipeline.context reordered).hierarchy.Agrees
      (pipeline.context unit).hierarchy := by
    cases hierarchy with
    | none => exact Hierarchy.agrees_ofUnit hall rfl
    | some given => exact Hierarchy.Agrees.refl given
  have hcontexts : (pipeline.context reordered).Agrees (pipeline.context unit) :=
    settings.agrees_toContext hhierarchy
  have houtcomes := Pipeline.outcomes_perm (Setup.generators_sublist_builtin rfl settings)
    hcontexts hall
  have hsound : ∀ generator ∈ pipeline.generators, generator.Sound :=
    fun generator => Setup.sound_of_mem_generators rfl
  have hends : pipeline.completes reordered ↔ pipeline.completes unit := by
    rw [Pipeline.completes_iff, Pipeline.completes_iff, Pipeline.jobs_eq_nil_iff hsound,
      Pipeline.jobs_eq_nil_iff hsound, ← List.length_eq_zero_iff, houtcomes.length_eq,
      List.length_eq_zero_iff]
  refine ⟨fun report hreport => ?_, fun hnone => ?_, fun hpos => Pipeline.exists_run?_iff hpos⟩
  · have hcompletes := hends.2 (Pipeline.run?_eq_some_iff.1 hreport).1
    have hreordered := Pipeline.run?_eq_some_iff.2 ⟨hcompletes, rfl⟩
    obtain rfl := Setup.eq_reference rfl hreport
    refine ⟨_, hreordered, ?_⟩
    rw [Setup.eq_reference rfl hreordered]
    refine ⟨houtcomes.filterMap _, fun hkeys => ?_⟩
    -- The names are those of the files of the report, which are the same before they are sorted.
    have hsorted := GeneratedFile.sortByName_perm
      ((pipeline.outcomes unit).filterMap ClassOutcome.file?)
    have hkeys' := (hsorted.map fun file => (file.package, file.fileName)).nodup_iff.1 hkeys
    exact GeneratedFile.sortByName_eq_of_perm (houtcomes.filterMap _) hkeys'
  · exact Pipeline.run?_eq_none_iff.2 (mt hends.1 (Pipeline.run?_eq_none_iff.1 hnone))

/-- Two classes with bindings, two that cannot be injected, and a type that is declared twice, each
time with another supertype. -/
def repoUnit : CompilationUnit :=
  let repoImpl := ClassDeclaration.ofName "p" "RepoImpl"
  let marked (name : String) :=
    (ClassDeclaration.ofName "p" name).annotate (.ofName ({} : Schema).autoWire)
  { CompilationUnit.empty with
    classes := [boundRepo, { boundRepo with name := ⟨"p.Store"⟩ },
      repoImpl.withSupertype ⟨"p.Base"⟩, repoImpl.withSupertype ⟨"p.Repository"⟩,
      marked "Login", marked "Screen"] }

/-- Backwards, the same two files and the same two diagnostics come of the unit. -/
theorem report_of_reordered_classes_backwards :
    let pipeline := ({} : Setup).pipeline {}
    let backwards : CompilationUnit := { repoUnit with classes := repoUnit.classes.reverse }
    backwards.classes.Perm repoUnit.classes ∧
      ∃ report report', pipeline.run? repoUnit = some report ∧
        pipeline.run? backwards = some report' ∧
        report.files.length = 2 ∧ report'.files = report.files ∧
        report.diagnostics.length = 2 ∧ report'.diagnostics.Perm report.diagnostics := by
  intro pipeline backwards
  have hclasses : backwards.classes.Perm repoUnit.classes := List.reverse_perm repoUnit.classes
  obtain ⟨hreports, -, hexists⟩ := report_of_reordered_classes {} none repoUnit _ hclasses
  obtain ⟨report, hreport⟩ := (hexists (by decide)).2 (by decide)
  obtain ⟨report', hreport', hdiagnostics, hfiles⟩ := hreports report hreport
  have heq : report = pipeline.reference repoUnit := Setup.eq_reference rfl hreport
  have hsorted : report.files.Perm ((pipeline.outcomes repoUnit).filterMap ClassOutcome.file?) :=
    heq ▸ GeneratedFile.sortByName_perm _
  have hkeys : (report.files.map fun file => (file.package, file.fileName)).Nodup :=
    (hsorted.map _).nodup_iff.2 (by decide)
  refine ⟨hclasses, report, report', hreport, hreport', ?_, hfiles hkeys, ?_, hdiagnostics⟩
  · rw [hsorted.length_eq]
    decide
  · rw [heq]
    decide

end Wiring
