import Wiring.Pipeline
import Wiring.Proofs.ClassPaths

/-!
# The report of work in sequence

What a run has to come to: the generators do their work one after the other, each on one class after
the other, and files and diagnostics are read off what they answer.

* `ClassOutcome`: what a generator made of a class;
* `Pipeline.outcomes`, `Pipeline.reference`: all outcomes in sequence, and their report;
* `Generator.Sound`: a generator that picks classes of the unit and always answers, as the standard
  ones do (`Generator.sound_of_mem_builtin`);
* `Plan.outcomes_make`: the jobs of a plan come to the outcomes in sequence.
-/

namespace Wiring

/-! ## Outcomes and their report -/

/-- What a generator made of a class. -/
structure ClassOutcome where
  generator : String
  owner : QualifiedName
  outcome : Outcome

namespace ClassOutcome

/-- The file that was made. -/
def file? (o : ClassOutcome) : Option GeneratedFile :=
  match o.outcome with
  | .made file => some file
  | _ => none

/-- The diagnostic of a failure: the generator, the text of the failure, and the element that it
names or else the class. -/
def diagnostic? (o : ClassOutcome) : Option Diagnostic :=
  match o.outcome with
  | .failed failure => some {
      generator := o.generator
      element := some (failure.element?.getD ⟨o.owner, none⟩)
      message := failure.message }
  | _ => none

/-- The event of a failure. -/
def event? (o : ClassOutcome) : Option LogEvent :=
  match o.outcome with
  | .failed failure => some {
      level := .warn
      message := o.generator ++ " 处理 " ++ o.owner.text ++ " 失败: " ++ failure.message }
  | _ => none

theorem file?_eq_some {o : ClassOutcome} {file : GeneratedFile} :
    o.file? = some file ↔ o.outcome = .made file := by
  rw [file?]
  cases o.outcome <;> simp

end ClassOutcome

namespace Pipeline

variable (pipeline : Pipeline) (unit : CompilationUnit)

/-- The outcomes of all generators for all classes they pick, in sequence. -/
def outcomes : List ClassOutcome :=
  pipeline.generators.flatMap fun generator =>
    (generator.outcomes unit (pipeline.context unit)).map fun made =>
      ⟨generator.name, made.1.name, made.2⟩

/-- The report of the outcomes in sequence. -/
def reference : Report where
  files := GeneratedFile.sortByName ((pipeline.outcomes unit).filterMap ClassOutcome.file?)
  diagnostics := (pipeline.outcomes unit).filterMap ClassOutcome.diagnostic?
  events := (pipeline.outcomes unit).filterMap ClassOutcome.event?

end Pipeline

/-! ## Generators that pick classes of the unit -/

/-- Whether work ended with an answer. -/
def Outcome.answers : Outcome → Bool
  | .aborted _ => false
  | _ => true

/-- The generator picks only classes of the unit, each by a path to it, and always answers. -/
structure Generator.Sound (generator : Generator) : Prop where
  owner_mem : ∀ unit context, ∀ owner ∈ generator.owners unit context,
    ∃ path c, owner = .declared path c ∧ unit.classAt? path = some c
  answers : ∀ c context, (generator.generate c context).answers

namespace Generator

theorem sound_ofWork (name : String) (picks : Context → ClassDeclaration → Bool)
    (work : ClassDeclaration → Context → Except Failure (Option Kotlin.SourceFile)) :
    (ofWork name picks work).Sound where
  owner_mem unit context owner h := by
    obtain ⟨entry, hentry, rfl⟩ := List.mem_map.1 h
    exact ⟨entry.1, entry.2, rfl, CompilationUnit.mem_classPaths.1 (List.mem_filter.1 hentry).1⟩
  answers c context := by
    change (Outcome.ofResult (work c context)).answers
    rcases work c context with failure | _ | file <;> rfl

theorem mem_builtin {generator : Generator} :
    generator ∈ builtin ↔
      generator = bindings ∨ generator = provisions ∨ generator = autoWire := by
  simp [builtin]

theorem sound_of_mem_builtin {generator : Generator} (h : generator ∈ builtin) :
    generator.Sound := by
  rcases mem_builtin.1 h with rfl | rfl | rfl
  all_goals exact sound_ofWork _ _ _

end Generator

/-! ## Plans -/

/-- The outcome of a job, with its generator and class. -/
def Job.classOutcome (unit : CompilationUnit) (context : Context) (job : Job) : ClassOutcome :=
  ⟨job.generator.name, job.name, job.outcome unit context⟩

namespace Plan

variable {generators : List Generator} (unit : CompilationUnit) (context : Context)

theorem strays_make (h : ∀ generator ∈ generators, generator.Sound) :
    (make generators unit context).strays = [] ∧ (make generators unit context).events = [] := by
  have hstray : ∀ generator ∈ generators,
      (generator.owners unit context).filterMap stray? = [] := by
    intro generator hg
    refine List.filterMap_eq_nil_iff.2 fun owner howner => ?_
    obtain ⟨path, c, rfl, -⟩ := (h generator hg).owner_mem unit context owner howner
    rfl
  have hnil : ((generators.filter (·.isApplicable context)).flatMap fun generator =>
      ((generator.owners unit context).filterMap stray?).map (generator, ·)) = [] := by
    refine List.flatMap_eq_nil_iff.2 fun generator hg => ?_
    rw [hstray generator (List.mem_filter.1 hg).1, List.map_nil]
  simp only [make, hnil, List.map_nil, and_self]

/-- The job of a class picked by a sound generator does the work of the generator on that class. -/
theorem map_classOutcome_jobs {generator : Generator} (h : generator.Sound) :
    ((generator.owners unit context).filterMap (job? generator)).map
        (Job.classOutcome unit context) =
      (generator.owners unit context).map fun owner =>
        ⟨generator.name, owner.declaration.name, generator.generate owner.declaration context⟩ := by
  have hmem := h.owner_mem unit context
  revert hmem
  induction generator.owners unit context with
  | nil => exact fun _ => rfl
  | cons owner rest ih =>
    intro hmem
    obtain ⟨path, c, rfl, hc⟩ := hmem owner List.mem_cons_self
    have ih := ih fun owner howner => hmem owner (List.mem_cons_of_mem _ howner)
    simp [job?, Job.classOutcome, Job.outcome, hc, Owner.declaration, ih]

/-- **The jobs of a plan come to the outcomes in sequence.** -/
theorem outcomes_make (h : ∀ generator ∈ generators, generator.Sound) :
    (make generators unit context).jobs.map (Job.classOutcome unit context) =
      generators.flatMap fun generator =>
        (generator.outcomes unit context).map fun made =>
          ⟨generator.name, made.1.name, made.2⟩ := by
  induction generators with
  | nil => rfl
  | cons generator rest ih =>
    have ih := ih fun g hg => h g (List.mem_cons_of_mem _ hg)
    have hjobs := map_classOutcome_jobs unit context (h generator List.mem_cons_self)
    simp only [make, List.map_flatMap] at ih
    simp only [make, List.map_flatMap, List.flatMap_cons, List.filter_cons]
    by_cases happ : generator.isApplicable context
    · rw [if_pos happ, List.flatMap_cons, ih, hjobs, Generator.outcomes, if_pos happ, List.map_map]
      rfl
    · rw [if_neg happ, ih, Generator.outcomes, if_neg happ]
      rfl

end Plan

end Wiring
