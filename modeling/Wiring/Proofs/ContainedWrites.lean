import Wiring.Proofs.Completion

/-!
# Contained writes

A report is written file by file, and what comes of one file changes nothing about the others: the
writer is asked for every file, once and in order, and the report only grows by what it answers.

* `Report.withWrites`, `Report.writeTo_eq`: the report with all answers of a writer;
* `Report.writeTo_of_notes`: writers that note something of each file;
* `Writer.noting`, `Report.writeTo_noting`: a writer that notes what it is asked for is asked for
  the files of the report;
* `Writer.NamesNoElement`, `memoryWriter_namesNoElement`, `folderWriter_namesNoElement`: failures
  that belong to no element;
* `Plan.report_isSuccess_iff`: when a run succeeds;
* **`writes_are_contained`**: what is in a report after writing, whatever fails.
-/

namespace Wiring

variable {m : Type → Type}

/-! ## The answers of a writer -/

/-- The paths of the files that were written. -/
def writtenPaths (answers : List (Except Failure String)) : List String :=
  answers.filterMap fun
    | .ok path => some path
    | .error _ => none

/-- The failures of the files that could not be written. -/
def writeFailures (answers : List (Except Failure String)) : List Failure :=
  answers.filterMap fun
    | .ok _ => none
    | .error failure => some failure

/-- The events of the files that could not be written. -/
def writeEvents (writer : Writer m) (writes : List (GeneratedFile × Except Failure String)) :
    List LogEvent :=
  writes.filterMap fun
    | (_, .ok _) => none
    | (file, .error failure) => some (writeEvent writer file failure)

theorem length_writtenPaths_add_writeFailures (answers : List (Except Failure String)) :
    (writtenPaths answers).length + (writeFailures answers).length = answers.length := by
  induction answers with
  | nil => rfl
  | cons answer rest ih =>
    cases answer with
    | ok path =>
      change (writtenPaths rest).length + 1 + (writeFailures rest).length = rest.length + 1
      omega
    | error failure =>
      change (writtenPaths rest).length + ((writeFailures rest).length + 1) = rest.length + 1
      omega

theorem mem_writeFailures {failure : Failure} {answers : List (Except Failure String)} :
    failure ∈ writeFailures answers ↔ .error failure ∈ answers := by
  rw [writeFailures, List.mem_filterMap]
  constructor
  · rintro ⟨answer, hanswer, h⟩
    cases answer with
    | ok path => cases h
    | error found =>
      cases h
      exact hanswer
  · exact fun h => ⟨_, h, rfl⟩

theorem writeFailures_eq_nil_iff {answers : List (Except Failure String)} :
    writeFailures answers = [] ↔ ∀ answer ∈ answers, ∃ path, answer = .ok path := by
  rw [writeFailures, List.filterMap_eq_nil_iff]
  refine forall₂_congr fun answer _ => ?_
  cases answer <;> simp

namespace Report

/-- A report with what a writer answers for files. -/
def withWrites (writer : Writer m) (report : Report) (files : List GeneratedFile)
    (answers : List (Except Failure String)) : Report :=
  { report with
    written := report.written ++ writtenPaths answers
    diagnostics := report.diagnostics ++
      (writeFailures answers).map (.ofFailure writer.name · none)
    events := report.events ++ writeEvents writer (files.zip answers) }

theorem withWrites_nil (writer : Writer m) (report : Report) (files : List GeneratedFile) :
    report.withWrites writer files [] = report := by
  simp [withWrites, writtenPaths, writeFailures, writeEvents]

/-- Answers are added one after the other. -/
theorem withWrites_cons (writer : Writer m) (report : Report) (file : GeneratedFile)
    (files : List GeneratedFile) (answer : Except Failure String)
    (answers : List (Except Failure String)) :
    (report.withWrites writer [file] [answer]).withWrites writer files answers =
      report.withWrites writer (file :: files) (answer :: answers) := by
  cases answer <;> simp [withWrites, writtenPaths, writeFailures, writeEvents]

variable [Monad m] [LawfulMonad m]

theorem writeFile_eq (writer : Writer m) (report : Report) (file : GeneratedFile) :
    report.writeFile writer file =
      (fun answer => report.withWrites writer [file] [answer]) <$> writer.write file := by
  rw [writeFile, map_eq_pure_bind]
  refine bind_congr fun answer => ?_
  cases answer <;> simp [withWrites, writtenPaths, writeFailures, writeEvents]

theorem foldlM_writeFile (writer : Writer m) (files : List GeneratedFile) (report : Report) :
    files.foldlM (writeFile writer) report =
      report.withWrites writer files <$> files.mapM writer.write := by
  induction files generalizing report with
  | nil => simp [withWrites_nil]
  | cons file rest ih =>
    simp only [List.foldlM_cons, List.mapM_cons, writeFile_eq, bind_map_left, map_bind, map_pure]
    refine bind_congr fun answer => ?_
    rw [ih, map_eq_pure_bind]
    exact bind_congr fun answers => by rw [withWrites_cons]

/-- **The writer is asked for each file of a report, once and in order**, and the report grows by
its answers. -/
theorem writeTo_eq (writer : Writer m) (report : Report) :
    report.writeTo writer =
      report.withWrites writer report.files <$> report.files.mapM writer.write :=
  foldlM_writeFile writer report.files report

end Report

/-! ## What a writer is asked for -/

variable [Monad m]

/-- A writer that also notes the files that it is asked to write. -/
def Writer.noting (writer : Writer m) : Writer (StateT (List GeneratedFile) m) where
  name := writer.name
  write file := do
    modify (· ++ [file])
    writer.write file

variable [LawfulMonad m]

theorem Writer.run_noting (writer : Writer m) (file : GeneratedFile) (asked : List GeneratedFile) :
    (writer.noting.write file).run asked = (·, asked ++ [file]) <$> writer.write file := by
  simp [noting]

/-- Work that notes something of each item notes it of all items in order. -/
theorem run_mapM_of_notes {α β γ : Type} {work : α → m β} {noting : α → StateT (List γ) m β}
    {note : α → γ}
    (h : ∀ item asked, (noting item).run asked = (·, asked ++ [note item]) <$> work item)
    (items : List α) (asked : List γ) :
    (items.mapM noting).run asked = (·, asked ++ items.map note) <$> items.mapM work := by
  induction items generalizing asked with
  | nil => simp
  | cons item rest ih =>
    simp only [List.mapM_cons, StateT.run_bind, StateT.run_pure, h, ih, bind_map_left, map_bind,
      map_pure, List.map_cons, List.append_assoc, List.singleton_append]

/-- A writer that notes something of each file notes it of the files of a report, and the report
becomes the same. -/
theorem Report.writeTo_of_notes {γ : Type} {writer : Writer m} {noting : Writer (StateT (List γ) m)}
    {note : GeneratedFile → γ} (hname : noting.name = writer.name)
    (h : ∀ file asked,
      (noting.write file).run asked = (·, asked ++ [note file]) <$> writer.write file)
    (report : Report) (asked : List γ) :
    (report.writeTo noting).run asked =
      (·, asked ++ report.files.map note) <$> report.writeTo writer := by
  have hwrites : report.withWrites noting = report.withWrites writer := by
    funext files answers
    simp only [withWrites, writeEvents, writeEvent, hname]
  rw [writeTo_eq, writeTo_eq, StateT.run_map, run_mapM_of_notes h, Functor.map_map,
    Functor.map_map, hwrites]

/-- **What a writer is asked for are the files of the report**, whatever it answers. -/
theorem Report.writeTo_noting (writer : Writer m) (report : Report)
    (asked : List GeneratedFile) :
    (report.writeTo writer.noting).run asked =
      (·, asked ++ report.files) <$> report.writeTo writer := by
  have hnotes := Report.writeTo_of_notes rfl writer.run_noting report asked
  rwa [List.map_id'] at hnotes

/-! ## Failures without an element -/

/-- The writer fails only in ways that belong to no element. -/
def Writer.NamesNoElement (writer : Writer m) : Prop :=
  ∀ file, ∃ work : m {answer : Except Failure String //
      ∀ failure, answer = .error failure → failure.element? = none},
    writer.write file = Subtype.val <$> work

theorem memoryWriter_namesNoElement : memoryWriter.NamesNoElement := by
  intro file
  refine ⟨(fun _ => ⟨.ok (file.relativePath defaultExtension), fun _ h => by cases h⟩) <$>
    modify (· ++ [file]), ?_⟩
  rfl

theorem folderWriter_namesNoElement (files : FileSystem m) (root extension : String) :
    (folderWriter files root extension).NamesNoElement := by
  intro file
  let path := Path.push root (file.relativePath extension)
  have hnone : ∀ answer : Except WriteError Unit, ∀ failure,
      (answer.map fun _ => path).mapError (Failure.artifactWrite path) = .error failure →
        failure.element? = none := by
    intro answer failure h
    cases answer with
    | ok written => cases h
    | error reason =>
      cases h
      rfl
  refine ⟨(fun answer => ⟨_, hnone answer⟩) <$> files.write path file.content, ?_⟩
  rw [folderWriter, Functor.map_map, map_eq_pure_bind]
  refine bind_congr fun answer => ?_
  cases answer <;> rfl

/-- Failures of a writer that names no element name none, whatever it is asked to write. -/
theorem Writer.NamesNoElement.mapM {writer : Writer m} (h : writer.NamesNoElement)
    (files : List GeneratedFile) :
    ∃ work : m {answers : List (Except Failure String) //
        ∀ failure ∈ writeFailures answers, failure.element? = none},
      files.mapM writer.write = Subtype.val <$> work := by
  induction files with
  | nil => exact ⟨pure ⟨[], fun _ h => by cases h⟩, by simp⟩
  | cons file rest ih =>
    obtain ⟨first, hfirst⟩ := h file
    obtain ⟨others, hothers⟩ := ih
    refine ⟨first >>= fun answer => others >>= fun answers =>
      pure ⟨answer.1 :: answers.1, fun failure hfailure => ?_⟩, ?_⟩
    · rcases List.mem_cons.1 (mem_writeFailures.1 hfailure) with hhead | htail
      · exact answer.2 failure hhead.symm
      · exact answers.2 failure (mem_writeFailures.2 htail)
    · simp only [List.mapM_cons, hfirst, hothers, bind_map_left, map_bind, map_pure]

/-! ## Success -/

/-- Whether work on a class made a file or nothing. -/
def Outcome.succeeded : Outcome → Bool
  | .made _ | .nothing => true
  | .failed _ | .aborted _ => false

/-- A report of results is free of diagnostics if no class is a stray and all work succeeded. -/
theorem Plan.report_isSuccess_iff {plan : Plan} {ended : List JobResult} :
    (plan.report ended).isSuccess ↔
      plan.strays = [] ∧ ∀ result ∈ ended, result.outcome.succeeded := by
  have hperm := List.mergeSort_perm ended fun a b => a.place ≤ b.place
  rw [Report.isSuccess, List.isEmpty_iff, report, List.append_eq_nil_iff, List.append_eq_nil_iff,
    and_assoc, List.filterMap_eq_nil_iff, List.filterMap_eq_nil_iff]
  refine and_congr_right fun _ => ?_
  simp only [hperm.mem_iff, ← forall_and]
  refine forall_congr' fun result => ?_
  obtain ⟨place, job, outcome⟩ := result
  cases outcome <;>
    simp [JobResult.abortionDiagnostic?, JobResult.abortion?, JobResult.diagnostic?,
      JobResult.failure?, Outcome.succeeded]

/-- There are strays if a generator that runs picks a class that does not belong to the unit. -/
theorem Plan.strays_make_eq_nil_iff {generators : List Generator} {unit : CompilationUnit}
    {context : Context} :
    (make generators unit context).strays = [] ↔
      ∀ generator ∈ generators, generator.isApplicable context →
        ∀ c, .foreign c ∉ generator.owners unit context := by
  simp only [make, List.map_eq_nil_iff, List.flatMap_eq_nil_iff, List.mem_filter, and_imp,
    List.filterMap_eq_nil_iff]
  refine forall_congr' fun generator => imp_congr_right fun _ => imp_congr_right fun _ => ?_
  constructor
  · intro h c hc
    cases h (.foreign c) hc
  · intro h owner howner
    cases owner with
    | declared path c => rfl
    | foreign c => exact absurd howner (h c)

theorem forall_mem_resultsFrom {unit : CompilationUnit} {context : Context} {place : Nat}
    {jobs : List Job} {p : Outcome → Prop} :
    (∀ result ∈ resultsFrom unit context place jobs, p result.outcome) ↔
      ∀ job ∈ jobs, p (job.outcome unit context) := by
  induction jobs generalizing place with
  | nil => simp [resultsFrom]
  | cons job rest ih => rw [resultsFrom, List.forall_mem_cons, List.forall_mem_cons, ih]

/-! ## Runs that write -/

namespace Pipeline

variable {pipeline : Pipeline} {unit : CompilationUnit}

/-- A report that a run can end with: all jobs of the plan have ended, in some order. -/
def Reports (pipeline : Pipeline) (unit : CompilationUnit) (report : Report) : Prop :=
  ∃ ended : List JobResult,
    ended.Perm (resultsFrom unit (pipeline.context unit) 0 (pipeline.plan unit).jobs) ∧
      report = (pipeline.plan unit).report ended

theorem reports_of_run? {report : Report} (h : pipeline.run? unit = some report) :
    pipeline.Reports unit report :=
  ⟨_, .refl _, eq_report_of_run? h⟩

theorem Reports.isSuccess_iff {report : Report} (h : pipeline.Reports unit report) :
    report.isSuccess ↔
      (∀ generator ∈ pipeline.generators, generator.isApplicable (pipeline.context unit) →
        ∀ c, .foreign c ∉ generator.owners unit (pipeline.context unit)) ∧
      ∀ job ∈ (pipeline.plan unit).jobs,
        (job.outcome unit (pipeline.context unit)).succeeded := by
  obtain ⟨ended, hperm, rfl⟩ := h
  rw [Plan.report_isSuccess_iff]
  simp only [hperm.mem_iff]
  exact and_congr Plan.strays_make_eq_nil_iff (forall_mem_resultsFrom (p := (·.succeeded)))

omit [LawfulMonad m] in
theorem runAndWrite_eq {report : Report} (writer : Writer m)
    (h : pipeline.run? unit = some report) :
    pipeline.runAndWrite unit writer =
      report.writeTo writer >>= fun final => pure (some final) := by
  rw [runAndWrite, h]

end Pipeline

omit [Monad m] [LawfulMonad m] in
theorem Report.withWrites_isSuccess_iff {writer : Writer m} {report : Report}
    {files : List GeneratedFile} {answers : List (Except Failure String)} :
    (report.withWrites writer files answers).isSuccess ↔
      report.isSuccess ∧ ∀ answer ∈ answers, ∃ path, answer = .ok path := by
  simp only [isSuccess, withWrites, List.isEmpty_iff, List.append_eq_nil_iff, List.map_eq_nil_iff,
    writeFailures_eq_nil_iff]

/-- **Writing is contained.** Whatever a run ends with and whatever writer it is given, the writer
is asked for each file once and in order. The files and the diagnostics of the run stay as they are,
the paths of the files that were written are noted in order, and for each other file there is one
more diagnostic of the writer. It is at no element unless the failure of the writer names one, which
those of the two writers here do not. The report is a success if and only if the generators that ran
picked classes of the unit only, all work on classes succeeded and all files were written. -/
theorem writes_are_contained (pipeline : Pipeline) (unit : CompilationUnit) (writer : Writer m)
    {report : Report} (hreport : pipeline.Reports unit report) :
    (∀ ran, pipeline.run? unit = some ran → pipeline.Reports unit ran ∧
      pipeline.runAndWrite unit writer = some <$> ran.writeTo writer) ∧
    (report.writeTo writer.noting).run [] = (·, report.files) <$> report.writeTo writer ∧
    report.writeTo writer =
      report.withWrites writer report.files <$> report.files.mapM writer.write ∧
    (∀ answers : List (Except Failure String), answers.length = report.files.length →
      let final := report.withWrites writer report.files answers
      let appended : List Diagnostic := (writeFailures answers).map fun failure =>
        ⟨writer.name, failure.element?, failure.message⟩
      final.files = report.files ∧
      final.diagnostics = report.diagnostics ++ appended ∧
      final.written = writtenPaths answers ∧
      final.written.length + appended.length = final.files.length ∧
      (final.isSuccess ↔
        (∀ generator ∈ pipeline.generators, generator.isApplicable (pipeline.context unit) →
          ∀ c, .foreign c ∉ generator.owners unit (pipeline.context unit)) ∧
        (∀ job ∈ (pipeline.plan unit).jobs,
          (job.outcome unit (pipeline.context unit)).succeeded) ∧
        ∀ answer ∈ answers, ∃ path, answer = .ok path)) ∧
    (writer.NamesNoElement →
      ∃ work : m {answers : List (Except Failure String) //
          ∀ failure ∈ writeFailures answers, failure.element? = none},
        report.files.mapM writer.write = Subtype.val <$> work) ∧
    memoryWriter.NamesNoElement ∧
    ∀ (files : FileSystem m) (root extension : String),
      (folderWriter files root extension).NamesNoElement := by
  refine ⟨fun ran hran => ⟨Pipeline.reports_of_run? hran, ?_⟩, report.writeTo_noting writer [],
    report.writeTo_eq writer, fun answers hlength => ?_, fun hwriter => hwriter.mapM report.files,
    memoryWriter_namesNoElement, folderWriter_namesNoElement⟩
  · rw [Pipeline.runAndWrite_eq writer hran, map_eq_pure_bind]
  · intro final appended
    have hwritten : final.written = writtenPaths answers := by
      obtain ⟨ended, -, rfl⟩ := hreport
      exact List.nil_append _
    have hdiagnostics : final.diagnostics = report.diagnostics ++ appended := by
      simp only [final, appended, Report.withWrites, Diagnostic.ofFailure, Option.or_none]
    refine ⟨rfl, hdiagnostics, hwritten, ?_, ?_⟩
    · rw [hwritten, List.length_map, length_writtenPaths_add_writeFailures, hlength]
      rfl
    · rw [Report.withWrites_isSuccess_iff, hreport.isSuccess_iff, and_assoc]

/-- A generator that makes an empty file for each class of a unit. -/
def emptyFiles : Generator where
  name := "empty"
  isApplicable _ := true
  owners unit _ := unit.owners fun _ => true
  generate c _ := .made ⟨c.package, c.name.shortName, "", []⟩

theorem files_of_emptyFiles {report : Report}
    (h : (⟨{}, [emptyFiles], none⟩ : Pipeline).run? twinUnit = some report) :
    report.files = [⟨"app", "Net", "", []⟩, ⟨"app", "Net", "", []⟩] := by
  rw [Pipeline.eq_report_of_run? h]
  simp only [Plan.report, mergeSort_eq_of_perm (.refl _) (pairwise_resultsFrom _ _ _ _)]
  change GeneratedFile.sortByName [⟨"app", "Net", "", []⟩, ⟨"app", "Net", "", []⟩] = _
  exact List.mergeSort_of_pairwise (by decide)

/-- A writer that refuses the first file it is asked to write. -/
def onceRefusing : Writer (StateM Nat) where
  name := "once"
  write file := do
    let count ← getModify (· + 1)
    let path := file.relativePath defaultExtension
    return if count = 0 then .error (.artifactWrite path .alreadyExists) else .ok path

/-- Of two files the first is refused and the second is written. -/
theorem writes_are_contained_onceRefusing :
    let pipeline : Pipeline := ⟨{}, [emptyFiles], none⟩
    ∃ report, pipeline.Reports twinUnit report ∧
      let answers := [.error (.artifactWrite "app/Net.kt" .alreadyExists), .ok "app/Net.kt"]
      (report.files.mapM onceRefusing.write).run 0 = (answers, 2) ∧
      let final := report.withWrites onceRefusing report.files answers
      final.files = report.files ∧ final.written = ["app/Net.kt"] ∧
      final.diagnostics = report.diagnostics ++
        [⟨"once", none, "生成文件写入失败: app/Net.kt, 原因: File exists (os error 17)"⟩] ∧
      final.isSuccess = false := by
  intro pipeline
  obtain ⟨report, hran⟩ : ∃ ran, pipeline.run? twinUnit = some ran := ⟨_, if_pos (by decide)⟩
  have hfiles := files_of_emptyFiles hran
  have hreport := Pipeline.reports_of_run? hran
  obtain ⟨-, -, -, hanswers, -⟩ := writes_are_contained pipeline twinUnit onceRefusing hreport
  obtain ⟨hkept, hdiagnostics, hwritten, -, hsuccess⟩ :=
    hanswers [.error (.artifactWrite "app/Net.kt" .alreadyExists), .ok "app/Net.kt"]
      (by rw [hfiles]; rfl)
  refine ⟨report, hreport, ?_, hkept, hwritten, hdiagnostics, ?_⟩
  · rw [hfiles]
    rfl
  · rw [Bool.eq_false_iff, Ne, hsuccess]
    rintro ⟨-, -, hall⟩
    obtain ⟨path, hpath⟩ := hall _ List.mem_cons_self
    cases hpath

/-- A generator that picks a class that belongs to no unit. -/
def strayGenerator : Generator where
  name := "stray"
  isApplicable _ := true
  owners _ _ := [.foreign (.ofName "com.example" "Ghost")]
  generate _ _ := .nothing

/-- A writer that refuses every file in the name of a class. -/
def blamingWriter : Writer Id where
  name := "blaming"
  write _ := .error (.unresolvedScope (.ofClass ⟨"com.example.Ghost"⟩))

/-- **A run may fail without a failed task or write, and a diagnostic of a writer may be at an
element.** A class that does not belong to the unit is reported although no work is done on it, and
a diagnostic is at the element that a failure names, whoever fails. -/
theorem success_not_only_of_tasks_and_writes :
    (∃ report : Report,
      ((⟨{}, [strayGenerator], none⟩ : Pipeline).plan .empty).jobs = [] ∧
      (⟨{}, [strayGenerator], none⟩ : Pipeline).runAndWrite .empty memoryWriter =
        pure (some report) ∧
      report.files = [] ∧ report.isSuccess = false) ∧
    ∃ report final : Report,
      (⟨{}, [emptyFiles], none⟩ : Pipeline).run? twinUnit = some report ∧ report.isSuccess ∧
      (⟨{}, [emptyFiles], none⟩ : Pipeline).runAndWrite twinUnit blamingWriter = some final ∧
      ∃ d ∈ final.diagnostics, d.generator = "blaming" ∧ d.element ≠ none := by
  constructor
  · obtain ⟨report, hran⟩ :
        ∃ ran, (⟨{}, [strayGenerator], none⟩ : Pipeline).run? .empty = some ran :=
      ⟨_, if_pos (by decide)⟩
    have hfiles : report.files = [] := by
      rw [Pipeline.eq_report_of_run? hran]
      simp only [Plan.report, mergeSort_eq_of_perm (.refl _) (pairwise_resultsFrom _ _ _ _)]
      exact List.mergeSort_nil
    refine ⟨report, rfl, ?_, hfiles, ?_⟩
    · rw [Pipeline.runAndWrite_eq memoryWriter hran, Report.writeTo, hfiles]
      rfl
    · rw [Bool.eq_false_iff, Ne, (Pipeline.reports_of_run? hran).isSuccess_iff]
      rintro ⟨hstrays, -⟩
      exact hstrays strayGenerator List.mem_cons_self rfl _ List.mem_cons_self
  · obtain ⟨report, hran⟩ :
        ∃ ran, (⟨{}, [emptyFiles], none⟩ : Pipeline).run? twinUnit = some ran :=
      ⟨_, if_pos (by decide)⟩
    have hfiles := files_of_emptyFiles hran
    refine ⟨report, _, hran, ?_, Pipeline.runAndWrite_eq blamingWriter hran, ?_⟩
    · rw [(Pipeline.reports_of_run? hran).isSuccess_iff]
      refine ⟨fun generator hgenerator _ c hc => ?_, by decide⟩
      rw [List.mem_singleton.1 hgenerator] at hc
      obtain ⟨entry, -, heq⟩ := List.mem_map.1 hc
      cases heq
    · rw [Report.writeTo_eq, hfiles]
      refine ⟨_, List.mem_append_right _ List.mem_cons_self, rfl, by decide⟩

end Wiring
