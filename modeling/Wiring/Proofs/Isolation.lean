import Wiring.Proofs.Locality
import Wiring.Proofs.Schedule

/-!
# Failures stay in their class

Two units may differ in one top-level class and in all that is nested in it. As long as the same
types are strict supertypes of which others, a run makes the same of all other classes, and its
report has what it makes of them beside what it makes of that one class.

* `CompilationUnit.pathsOutside`, `Owner.isUnder`: the classes outside a top-level class, and the
  picked classes in it;
* `Generator.results`, `Pipeline.results`: what is made of each class that is picked;
* `Generator.resultsOutside_eq`: what a generator makes of the classes outside;
* `Report.IsMerge`: a report of two lists of outcomes that come in turns;
* **`results_outside_eq`**: what comes of the classes outside is the same in both runs, and nothing
  of it is lost, added or changed.
-/

namespace Wiring

/-! ## The classes outside a top-level class -/

namespace ClassDeclaration

variable {classes : List ClassDeclaration} {entry : List Nat × ClassDeclaration} {index : Nat}

theorem pathsFrom_append (path : List Nat) (index : Nat) (a b : List ClassDeclaration) :
    pathsFrom path index (a ++ b) =
      pathsFrom path index a ++ pathsFrom path (index + a.length) b := by
  induction a generalizing index with
  | nil => rfl
  | cons c rest ih =>
    have hlength : index + (c :: rest).length = index + 1 + rest.length := by
      rw [List.length_cons]
      omega
    rw [List.cons_append, pathsFrom, pathsFrom, ih, hlength, List.append_assoc]

theorem head?_of_mem_pathsFrom (h : entry ∈ pathsFrom [] index classes) :
    ∃ i < classes.length, entry.1.head? = some (index + i) := by
  obtain ⟨i, rest, c, hi, hpath, -⟩ := (mem_pathsFrom [] entry.1 entry.2 index classes).1 h
  obtain ⟨hlt, -⟩ := List.getElem?_eq_some_iff.1 hi
  exact ⟨i, hlt, by rw [hpath]; rfl⟩

theorem head?_of_mem_paths {c : ClassDeclaration} (h : entry ∈ c.paths [index]) :
    entry.1.head? = some index := by
  obtain ⟨rest, hpath, -⟩ := (mem_paths [index] entry.1 entry.2 c).1 h
  rw [hpath]
  rfl

end ClassDeclaration

namespace CompilationUnit

open ClassDeclaration

variable (unit : CompilationUnit) (index : Nat)

/-- The classes of a unit with their paths, but for a top-level class and those nested in it. -/
def pathsOutside : List (List Nat × ClassDeclaration) :=
  unit.classPaths.filter (·.1.head? ≠ some index)

/-- What is left are the families of the classes before and of those after the one left out. -/
theorem pathsOutside_eq :
    unit.pathsOutside index =
      pathsFrom [] 0 (unit.classes.take index) ++
        pathsFrom [] (index + 1) (unit.classes.drop (index + 1)) := by
  have hbefore : (pathsFrom [] 0 (unit.classes.take index)).filter (·.1.head? ≠ some index) =
      pathsFrom [] 0 (unit.classes.take index) := by
    refine List.filter_eq_self.2 fun entry hentry => ?_
    obtain ⟨i, hi, hhead⟩ := head?_of_mem_pathsFrom hentry
    rw [List.length_take] at hi
    simp only [hhead, ne_eq, Option.some.injEq, decide_eq_true_eq]
    omega
  have hafter : (pathsFrom [] (index + 1) (unit.classes.drop (index + 1))).filter
      (·.1.head? ≠ some index) = pathsFrom [] (index + 1) (unit.classes.drop (index + 1)) := by
    refine List.filter_eq_self.2 fun entry hentry => ?_
    obtain ⟨i, -, hhead⟩ := head?_of_mem_pathsFrom hentry
    simp only [hhead, ne_eq, Option.some.injEq, decide_eq_true_eq]
    omega
  rw [pathsOutside, classPaths]
  rcases Nat.lt_or_ge index unit.classes.length with hlt | hge
  · have hown : (unit.classes[index].paths [index]).filter (·.1.head? ≠ some index) = [] := by
      refine List.filter_eq_nil_iff.2 fun entry hentry => ?_
      simp [head?_of_mem_paths hentry]
    have hsplit : unit.classes =
        unit.classes.take index ++ unit.classes[index] :: unit.classes.drop (index + 1) := by
      rw [← List.drop_eq_getElem_cons hlt, List.take_append_drop]
    have hlength : 0 + (unit.classes.take index).length = index := by
      rw [List.length_take]
      omega
    calc
      _ = (pathsFrom [] 0 (unit.classes.take index ++
            unit.classes[index] :: unit.classes.drop (index + 1))).filter
              (·.1.head? ≠ some index) := by rw [← hsplit]
      _ = _ := by
        rw [pathsFrom_append, hlength, pathsFrom, List.filter_append, List.filter_append,
          List.nil_append, hbefore, hown, hafter, List.nil_append]
  · have hall : unit.classes.take index = unit.classes := List.take_of_length_le hge
    rw [hall] at hbefore ⊢
    rw [hbefore, List.drop_of_length_le (by omega), pathsFrom, List.append_nil]

/-- Units that have the same classes outside a top-level one have them at the same paths. -/
theorem pathsOutside_congr {unit unit' : CompilationUnit} {index : Nat}
    (h : ∀ i ≠ index, unit.classes[i]? = unit'.classes[i]?) :
    unit.pathsOutside index = unit'.pathsOutside index := by
  have hbefore : unit.classes.take index = unit'.classes.take index := by
    refine List.ext_getElem? fun i => ?_
    rw [List.getElem?_take, List.getElem?_take]
    split
    · exact h i (by omega)
    · rfl
  have hafter : unit.classes.drop (index + 1) = unit'.classes.drop (index + 1) := by
    refine List.ext_getElem? fun i => ?_
    rw [List.getElem?_drop, List.getElem?_drop]
    exact h _ (by omega)
  rw [pathsOutside_eq, pathsOutside_eq, hbefore, hafter]

end CompilationUnit

/-! ## What is made of the classes outside -/

/-- Whether a class that was picked is the top-level class of an index or nested in it. -/
def Owner.isUnder (index : Nat) : Owner → Bool
  | .declared path _ => path.head? = some index
  | .foreign _ => false

theorem CompilationUnit.filter_owners (unit : CompilationUnit) (index : Nat)
    (picks : ClassDeclaration → Bool) :
    (unit.owners picks).filter (!·.isUnder index) =
      ((unit.pathsOutside index).filter (picks ·.2)).map fun entry =>
        .declared entry.1 entry.2 := by
  rw [owners, List.filter_map, pathsOutside, List.filter_filter, List.filter_filter]
  congr 1
  refine List.filter_congr fun entry _ => ?_
  simp [Owner.isUnder, Bool.and_comm]

namespace Generator

variable (generator : Generator)

/-- What a generator makes of the classes that it picks, each with the class; nothing if it does
not run. -/
def results (unit : CompilationUnit) (context : Context) : List (Owner × Outcome) :=
  if generator.isApplicable context then
    (generator.owners unit context).map fun owner =>
      (owner, generator.generate owner.declaration context)
  else []

/-- What a generator makes of the classes outside a top-level class. -/
def resultsOutside (index : Nat) (unit : CompilationUnit) (context : Context) :
    List (Owner × Outcome) :=
  (generator.results unit context).filter (!·.1.isUnder index)

variable {generator} {a b : Context}

/-- A generator that acts alike makes the same of the classes that two units share. -/
theorem resultsOutside_eq (h : generator.ActsAlike a b) {unit unit' : CompilationUnit}
    {index : Nat} (hclasses : ∀ i ≠ index, unit.classes[i]? = unit'.classes[i]?) :
    generator.resultsOutside index unit a = generator.resultsOutside index unit' b := by
  obtain ⟨picks, hpicks⟩ := h.owners_eq
  have howners : (generator.owners unit a).filter (!·.isUnder index) =
      (generator.owners unit' b).filter (!·.isUnder index) := by
    rw [(hpicks unit).1, (hpicks unit').2, CompilationUnit.filter_owners,
      CompilationUnit.filter_owners, CompilationUnit.pathsOutside_congr hclasses]
  unfold resultsOutside results
  rw [h.isApplicable_eq]
  split
  · rw [List.filter_map, List.filter_map]
    simp only [Function.comp_def, h.generate_eq, howners]
  · rfl

end Generator

namespace Pipeline

variable (pipeline : Pipeline) (unit : CompilationUnit) (index : Nat)

/-- What a run makes of the classes that are picked, each with the class. -/
def results : List (Owner × ClassOutcome) :=
  pipeline.generators.flatMap fun generator =>
    (generator.results unit (pipeline.context unit)).map fun made =>
      (made.1, ⟨generator.name, made.1.declaration.name, made.2⟩)

/-- What a run makes of the classes outside a top-level class. -/
def outcomesOutside : List ClassOutcome :=
  ((pipeline.results unit).filter (!·.1.isUnder index)).map (·.2)

/-- What a run makes of a top-level class and of those nested in it. -/
def outcomesUnder : List ClassOutcome :=
  ((pipeline.results unit).filter (·.1.isUnder index)).map (·.2)

theorem map_results : (pipeline.results unit).map (·.2) = pipeline.outcomes unit := by
  unfold results outcomes
  rw [List.map_flatMap]
  refine List.flatMap_congr fun generator _ => ?_
  unfold Generator.results Generator.outcomes
  split
  · simp only [List.map_map, Function.comp_def]
  · rfl

theorem outcomesOutside_eq_flatMap :
    pipeline.outcomesOutside unit index = pipeline.generators.flatMap fun generator =>
      (generator.resultsOutside index unit (pipeline.context unit)).map fun made =>
        ⟨generator.name, made.1.declaration.name, made.2⟩ := by
  unfold outcomesOutside results
  rw [List.filter_flatMap, List.map_flatMap]
  refine List.flatMap_congr fun generator _ => ?_
  rw [Generator.resultsOutside, List.filter_map, List.map_map]
  rfl

end Pipeline

/-! ## Reports -/

/-- A report of outcomes of two kinds: it has the files and the diagnostics of both and no other
ones, and the diagnostics of each kind in their order. -/
structure Report.IsMerge (report : Report) (a b : List ClassOutcome) : Prop where
  files : report.files.Perm (a.filterMap ClassOutcome.file? ++ b.filterMap ClassOutcome.file?)
  diagnostics : report.diagnostics.Perm
    (a.filterMap ClassOutcome.diagnostic? ++ b.filterMap ClassOutcome.diagnostic?)
  left : (a.filterMap ClassOutcome.diagnostic?).Sublist report.diagnostics
  right : (b.filterMap ClassOutcome.diagnostic?).Sublist report.diagnostics

theorem Pipeline.isMerge_reference (pipeline : Pipeline) (unit : CompilationUnit) (index : Nat) :
    (pipeline.reference unit).IsMerge (pipeline.outcomesOutside unit index)
      (pipeline.outcomesUnder unit index) := by
  have hall := pipeline.map_results unit
  have houtside : (pipeline.outcomesOutside unit index).Sublist (pipeline.outcomes unit) :=
    hall ▸ List.filter_sublist.map _
  have hunder : (pipeline.outcomesUnder unit index).Sublist (pipeline.outcomes unit) :=
    hall ▸ List.filter_sublist.map _
  have hperm : (pipeline.outcomes unit).Perm
      (pipeline.outcomesOutside unit index ++ pipeline.outcomesUnder unit index) := by
    have hparts := List.filter_append_perm (·.1.isUnder index) (pipeline.results unit)
    rw [← hall, outcomesOutside, outcomesUnder, ← List.map_append]
    exact (hparts.symm.trans List.perm_append_comm).map _
  have hfiles := hperm.filterMap ClassOutcome.file?
  have hdiagnostics := hperm.filterMap ClassOutcome.diagnostic?
  rw [List.filterMap_append] at hfiles hdiagnostics
  exact ⟨(GeneratedFile.sortByName_perm _).trans hfiles, hdiagnostics,
    houtside.filterMap _, hunder.filterMap _⟩

/-! ## Two runs -/

/-- **What comes of a class does not depend on the other ones.** If two units differ only in one
top-level class and their hierarchies agree, every generator makes the same of the classes outside
it, in the same order. A report of either run has all files and all diagnostics of the classes
outside, the diagnostics in the same order, and beside them only those of that one class and of the
classes nested in it. If at least one task is allowed, both runs have a report or none has one. -/
theorem results_outside_eq (settings : Settings) (hierarchy : Option Hierarchy)
    (unit unit' : CompilationUnit) (index : Nat)
    (hclasses : ∀ i ≠ index, unit.classes[i]? = unit'.classes[i]?)
    (hagrees : let pipeline := ({ hierarchy := hierarchy } : Setup).pipeline settings
      (pipeline.context unit).hierarchy.Agrees (pipeline.context unit').hierarchy) :
    let pipeline := ({ hierarchy := hierarchy } : Setup).pipeline settings
    let outside := pipeline.outcomesOutside unit index
    (∀ generator ∈ pipeline.generators,
      generator.resultsOutside index unit (pipeline.context unit) =
        generator.resultsOutside index unit' (pipeline.context unit')) ∧
    pipeline.outcomesOutside unit' index = outside ∧
    (∀ report, pipeline.run? unit = some report →
      report.IsMerge outside (pipeline.outcomesUnder unit index)) ∧
    (∀ report', pipeline.run? unit' = some report' →
      report'.IsMerge outside (pipeline.outcomesUnder unit' index)) ∧
    (1 ≤ settings.maxTasks →
      ((∃ report, pipeline.run? unit = some report) ↔ settings.maxTasks ≤ taskLimit) ∧
      ((∃ report', pipeline.run? unit' = some report') ↔ settings.maxTasks ≤ taskLimit)) := by
  intro pipeline outside
  have hcontexts : (pipeline.context unit).Agrees (pipeline.context unit') :=
    settings.agrees_toContext hagrees
  have hresults : ∀ generator ∈ pipeline.generators,
      generator.resultsOutside index unit (pipeline.context unit) =
        generator.resultsOutside index unit' (pipeline.context unit') := by
    intro generator hgenerator
    have hbuiltin := (Setup.generators_sublist_builtin rfl settings).subset hgenerator
    exact Generator.resultsOutside_eq (Generator.actsAlike_of_mem_builtin hcontexts hbuiltin)
      hclasses
  have houtside : pipeline.outcomesOutside unit' index = outside := by
    rw [pipeline.outcomesOutside_eq_flatMap unit' index]
    refine Eq.trans ?_ (pipeline.outcomesOutside_eq_flatMap unit index).symm
    refine List.flatMap_congr fun generator hgenerator => ?_
    rw [hresults generator hgenerator]
  refine ⟨hresults, houtside, fun report hreport => ?_, fun report' hreport' => ?_,
    fun hpos => ⟨Pipeline.exists_run?_iff hpos, Pipeline.exists_run?_iff hpos⟩⟩
  · rw [Setup.eq_reference rfl hreport]
    exact pipeline.isMerge_reference unit index
  · rw [Setup.eq_reference rfl hreport', ← houtside]
    exact pipeline.isMerge_reference unit' index

/-- A class of the package `p` that provides a repository under a supertype. -/
def boundRepo : ClassDeclaration :=
  { ClassDeclaration.ofName "p" "Repo" with
    annotations := [.ofName WellKnown.providerModule]
    functions := [⟨"repo", .ofClass ⟨"p.RepoImpl"⟩,
      [.ofName WellKnown.provides,
        ⟨({} : Schema).providesBinding, [⟨none, .classLiteral ⟨"p.Repository"⟩⟩], []⟩]⟩] }

/-- A class with the given annotations that publishes a client, in front of another class. -/
def clientUnit (annotations : List Annotation) : CompilationUnit :=
  let client : PropertyDeclaration :=
    ⟨"client", .ofClass ⟨"p.Client"⟩,
      [.ofName WellKnown.provides, .ofName ({} : Schema).contribution]⟩
  let net := { ClassDeclaration.ofName "p" "Net" with
    annotations := .ofName WellKnown.providerModule :: annotations
    properties := [client] }
  ((CompilationUnit.empty.withClass net).withClass boundRepo).withExternalSupertypes
    ⟨"p.RepoImpl"⟩ [⟨"p.Repository"⟩]

/-- A client without a scope is a failure of its own class, and the file of the other class is made
as before. -/
theorem results_outside_eq_client :
    let pipeline := ({} : Setup).pipeline {}
    let fine := clientUnit [⟨WellKnown.contributesTo, [⟨none, .classLiteral ⟨"p.App"⟩⟩], []⟩]
    let broken := clientUnit []
    (∀ i ≠ 0, fine.classes[i]? = broken.classes[i]?) ∧
      (pipeline.context fine).hierarchy.Agrees (pipeline.context broken).hierarchy ∧
      ∃ report report', pipeline.run? fine = some report ∧ pipeline.run? broken = some report' ∧
        report.diagnostics.length = 0 ∧ report'.diagnostics.length = 1 ∧
        ∀ r ∈ [report, report'], "RepoAndBindsCodeGen" ∈ r.files.map (·.fileName) := by
  intro pipeline fine broken
  have hclasses : ∀ i ≠ 0, fine.classes[i]? = broken.classes[i]? := by
    intro i hi
    obtain ⟨k, rfl⟩ := Nat.exists_eq_succ_of_ne_zero hi
    rfl
  have hagrees : (pipeline.context fine).hierarchy.Agrees (pipeline.context broken).hierarchy :=
    Hierarchy.Agrees.refl _
  obtain ⟨-, -, hmerges, hmerges', hreports⟩ :=
    results_outside_eq {} none fine broken 0 hclasses hagrees
  obtain ⟨hfine, hbroken⟩ := hreports (by decide)
  obtain ⟨report, hreport⟩ := hfine.2 (by decide)
  obtain ⟨report', hreport'⟩ := hbroken.2 (by decide)
  have hmerge := hmerges report hreport
  have hmerge' := hmerges' report' hreport'
  have houtside : "RepoAndBindsCodeGen" ∈
      ((pipeline.outcomesOutside fine 0).filterMap ClassOutcome.file?).map (·.fileName) := by
    decide
  refine ⟨hclasses, hagrees, report, report', hreport, hreport', ?_, ?_, ?_⟩
  · rw [hmerge.diagnostics.length_eq]
    decide
  · rw [hmerge'.diagnostics.length_eq]
    decide
  · have hmem : ∀ r own, Report.IsMerge r (pipeline.outcomesOutside fine 0) own →
        "RepoAndBindsCodeGen" ∈ r.files.map (·.fileName) := by
      intro r own hr
      rw [(hr.files.map _).mem_iff, List.map_append]
      exact List.mem_append_left _ houtside
    simp only [List.mem_cons, List.not_mem_nil, or_false, forall_eq_or_imp, forall_eq]
    exact ⟨hmem report _ hmerge, hmem report' _ hmerge'⟩

end Wiring
