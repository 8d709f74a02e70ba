import Mathlib.Data.List.Nodup
import Mathlib.Data.Prod.Basic
import Wiring.Proofs.FilesKept
import Wiring.Proofs.GeneratedNames
import Wiring.Proofs.Schedule
import Wiring.Proofs.Success

/-!
# Files that overwrite each other

When the files of a report have paths of their own, so that none of them is lost when all of them
are written.

* `fileKey`, `Generator.key_of_made`: the package and the name of what is made of a class;
* `Pipeline.published`, `Pipeline.map_key_files`: the classes that files are made of;
* `CompilationUnit.WellNamed`: classes with names of their own, each in its package;
* `Pipeline.nodup_keys`: a condition on which all files have names of their own;
* **`paths_distinct_iff_keys_distinct`**: the paths of the files are distinct if and only if the
  generated names are, and then every file can be read where it was written.
-/

namespace Wiring

/-! ## Names of files -/

/-- The suffix of the files of a standard generator. -/
def Suffixes.ofGenerator (suffixes : Suffixes) (generator : Generator) : String :=
  if generator.name = Generator.bindings.name then suffixes.bindings
  else if generator.name = Generator.provisions.name then suffixes.provisions
  else suffixes.autoWire

/-- The package and the name of the file that a generator makes of a class. -/
def fileKey (suffixes : Suffixes) (made : Generator × ClassDeclaration) : String × String :=
  (made.2.package, made.2.generatedName (suffixes.ofGenerator made.1))

section

variable {c : ClassDeclaration} {context : Context} {file : Kotlin.SourceFile}

/-- What is made of a class with bindings is the file of some bindings and scopes. -/
theorem eq_bindingsFile (h : generateBindings c context = .ok (some file)) :
    ∃ bindings scopes, file = bindingsFile c bindings scopes context.suffixes := by
  obtain ⟨bindings, -, h⟩ := bind_eq_ok.1 h
  split at h
  · cases h
  · obtain ⟨scopes, -, h⟩ := bind_eq_ok.1 h
    cases h
    exact ⟨bindings, distinct scopes, rfl⟩

theorem generateBindings_key (h : generateBindings c context = .ok (some file)) :
    file.package = c.package ∧ file.name = c.generatedName context.suffixes.bindings := by
  obtain ⟨bindings, scopes, rfl⟩ := eq_bindingsFile h
  exact ⟨rfl, rfl⟩

/-- What is made of a class with provisions is the file of some groups of them. -/
theorem eq_provisionsFile (h : generateProvisions c context = .ok (some file)) :
    ∃ groups, file = provisionsFile c groups context.suffixes := by
  rw [generateProvisions] at h
  split at h
  · obtain ⟨provisions, -, h⟩ := bind_eq_ok.1 h
    obtain ⟨groups, -, h⟩ := bind_eq_ok.1 h
    cases h
    exact ⟨groups, rfl⟩
  · obtain ⟨provisions, -, h⟩ := bind_eq_ok.1 h
    split at h
    · cases h
    · obtain ⟨scopes, -, h⟩ := bind_eq_ok.1 h
      obtain ⟨groups, -, h⟩ := bind_eq_ok.1 h
      cases h
      exact ⟨groups, rfl⟩

theorem generateProvisions_key (h : generateProvisions c context = .ok (some file)) :
    file.package = c.package ∧ file.name = c.generatedName context.suffixes.provisions := by
  obtain ⟨groups, rfl⟩ := eq_provisionsFile h
  exact ⟨rfl, rfl⟩

theorem eq_autoWireFile (h : generateAutoWire c context = .ok (some file)) :
    ∃ scope, file = autoWireFile c scope context.suffixes := by
  obtain ⟨markers, -, h⟩ := bind_eq_ok.1 h
  split at h
  · cases h
    exact ⟨_, rfl⟩
  · cases h

theorem generateAutoWire_key (h : generateAutoWire c context = .ok (some file)) :
    file.package = c.package ∧ file.name = c.generatedName context.suffixes.autoWire := by
  obtain ⟨scope, rfl⟩ := eq_autoWireFile h
  exact ⟨rfl, rfl⟩

theorem Outcome.ofResult_eq_made {result : Except Failure (Option Kotlin.SourceFile)}
    {made : GeneratedFile} (h : ofResult result = .made made) :
    ∃ file, result = .ok (some file) ∧ made = file.toGenerated := by
  rcases result with failure | _ | file
  · cases h
  · cases h
  · cases h
    exact ⟨file, rfl, rfl⟩

end

namespace Generator

variable {generator : Generator} {c : ClassDeclaration} {context : Context}

/-- What a standard generator makes of a class lies in the package of the class and has its name,
with the suffix of the generator. -/
theorem key_of_made (hgenerator : generator ∈ builtin) {made : GeneratedFile}
    (h : generator.generate c context = .made made) :
    (made.package, made.fileName) = fileKey context.suffixes (generator, c) := by
  have hkey : made.package = c.package ∧
      made.fileName = c.generatedName (context.suffixes.ofGenerator generator) := by
    rcases mem_builtin.1 hgenerator with rfl | rfl | rfl
    · obtain ⟨file, hfile, rfl⟩ := Outcome.ofResult_eq_made h
      exact generateBindings_key hfile
    · obtain ⟨file, hfile, rfl⟩ := Outcome.ofResult_eq_made h
      exact generateProvisions_key hfile
    · obtain ⟨file, hfile, rfl⟩ := Outcome.ofResult_eq_made h
      exact generateAutoWire_key hfile
  rw [hkey.1, hkey.2, fileKey]

theorem map_fst_outcomes (name : String) (picks : Context → ClassDeclaration → Bool)
    (work : ClassDeclaration → Context → Except Failure (Option Kotlin.SourceFile))
    (unit : CompilationUnit) (context : Context) :
    (((ofWork name picks work).outcomes unit context).map (·.1)).Sublist unit.allClasses := by
  rw [outcomes]
  split
  · have hsub := (List.filter_sublist : (unit.classPaths.filter (picks context ·.2)).Sublist
      unit.classPaths).map (·.2)
    rw [unit.map_snd_classPaths] at hsub
    simp only [ofWork, CompilationUnit.owners, List.map_map]
    exact hsub
  · exact List.nil_sublist _

/-- The classes that a standard generator works on are classes of the unit, each at most once. -/
theorem classes_sublist (hgenerator : generator ∈ builtin) (unit : CompilationUnit)
    (context : Context) :
    ((generator.outcomes unit context).map (·.1)).Sublist unit.allClasses := by
  rcases mem_builtin.1 hgenerator with rfl | rfl | rfl
  all_goals exact map_fst_outcomes _ _ _ unit context

theorem snd_of_mem_outcomes {unit : CompilationUnit} {made : ClassDeclaration × Outcome}
    (h : made ∈ generator.outcomes unit context) :
    made.2 = generator.generate made.1 context := by
  rw [outcomes] at h
  split at h
  · obtain ⟨owner, -, rfl⟩ := List.mem_map.1 h
    rfl
  · cases h

theorem pairwise_name_builtin : builtin.Pairwise fun a b => a.name ≠ b.name := by
  simp [builtin, bindings, provisions, autoWire, ofWork]

end Generator

/-! ## Classes that files are made of -/

/-- Whether a file was made. -/
def Outcome.isMade : Outcome → Bool
  | .made _ => true
  | _ => false

/-- A unit whose classes have names of their own, each in its package. -/
structure CompilationUnit.WellNamed (unit : CompilationUnit) : Prop where
  distinct : (unit.allClasses.map (·.name)).Nodup
  placed : ∀ c ∈ unit.allClasses, c.IsPlaced

namespace Pipeline

variable {pipeline : Pipeline} {unit : CompilationUnit}

/-- The classes that files are made of, each with the generator that makes the file. -/
def published (pipeline : Pipeline) (unit : CompilationUnit) :
    List (Generator × ClassDeclaration) :=
  pipeline.generators.flatMap fun generator =>
    ((generator.outcomes unit (pipeline.context unit)).filter (·.2.isMade)).map fun made =>
      (generator, made.1)

/-- No suffix of a generator ends in that of another one. -/
def SuffixesApart (pipeline : Pipeline) : Prop :=
  ∀ a ∈ pipeline.generators, ∀ b ∈ pipeline.generators, a.name ≠ b.name →
    ¬(pipeline.settings.suffixes.ofGenerator a).toList <:+
      (pipeline.settings.suffixes.ofGenerator b).toList

theorem keys_of_outcomes {generator : Generator} (hgenerator : generator ∈ Generator.builtin)
    {context : Context} {outcomes : List (ClassDeclaration × Outcome)}
    (h : ∀ made ∈ outcomes, made.2 = generator.generate made.1 context) :
    ((outcomes.map fun made => ClassOutcome.mk generator.name made.1.name made.2).filterMap
        ClassOutcome.file?).map (fun file => (file.package, file.fileName)) =
      ((outcomes.filter (·.2.isMade)).map fun made => (generator, made.1)).map
        (fileKey context.suffixes) := by
  induction outcomes with
  | nil => rfl
  | cons made rest ih =>
    obtain ⟨hmade, hrest⟩ := List.forall_mem_cons.1 h
    have ih := ih hrest
    obtain ⟨c, outcome⟩ := made
    cases outcome with
    | made file =>
      have hkey := Generator.key_of_made hgenerator hmade.symm
      simp only [List.map_cons, List.filterMap_cons, ClassOutcome.file?, List.filter_cons,
        Outcome.isMade, if_true, hkey]
      exact congrArg _ ih
    | nothing => exact ih
    | failed failure => exact ih
    | aborted text => exact ih

/-- The files of a run have the packages and names of the classes that they are made of. -/
theorem map_key_files (h : pipeline.generators.Sublist Generator.builtin) :
    ((pipeline.outcomes unit).filterMap ClassOutcome.file?).map
        (fun file => (file.package, file.fileName)) =
      (pipeline.published unit).map (fileKey pipeline.settings.suffixes) := by
  rw [outcomes, published, List.filterMap_flatMap, List.map_flatMap, List.map_flatMap]
  refine List.flatMap_congr fun generator hgenerator => ?_
  exact keys_of_outcomes (h.subset hgenerator) fun made => Generator.snd_of_mem_outcomes

theorem mem_published (h : pipeline.generators.Sublist Generator.builtin)
    {made : Generator × ClassDeclaration} (hmade : made ∈ pipeline.published unit) :
    made.1 ∈ pipeline.generators ∧ made.2 ∈ unit.allClasses := by
  obtain ⟨generator, hgenerator, hmade⟩ := List.mem_flatMap.1 hmade
  obtain ⟨entry, hentry, rfl⟩ := List.mem_map.1 hmade
  have hclasses := Generator.classes_sublist (h.subset hgenerator) unit (pipeline.context unit)
  exact ⟨hgenerator, hclasses.subset (List.mem_map_of_mem (List.mem_filter.1 hentry).1)⟩

/-- No generator makes two files of one class. -/
theorem nodup_published (h : pipeline.generators.Sublist Generator.builtin)
    (hunit : (unit.allClasses.map (·.name)).Nodup) :
    ((pipeline.published unit).map fun made => (made.1.name, made.2.name)).Nodup := by
  rw [published, List.map_flatMap, List.nodup_flatMap]
  constructor
  · intro generator hgenerator
    have hclasses := (Generator.classes_sublist (h.subset hgenerator) unit
      (pipeline.context unit)).map (·.name)
    have hmade := (List.filter_sublist : ((generator.outcomes unit (pipeline.context unit)).filter
      (·.2.isMade)).Sublist _).map (·.1.name)
    rw [List.map_map] at hclasses
    have hnames := (hunit.sublist hclasses).sublist hmade
    have hpairs := hnames.map (Prod.mk_right_injective generator.name)
    rw [List.map_map] at hpairs ⊢
    exact hpairs
  · refine (Generator.pairwise_name_builtin.sublist h).imp fun hne => ?_
    intro made ha hb
    simp only [List.mem_map] at ha hb
    obtain ⟨_, ⟨_, -, rfl⟩, rfl⟩ := ha
    obtain ⟨_, ⟨_, -, rfl⟩, hname⟩ := hb
    exact hne (congrArg Prod.fst hname).symm

/-- The generated names are distinct if the suffixes tell the generators apart and no name of a
class below its package has an underscore. -/
theorem nodup_keys (h : pipeline.generators.Sublist Generator.builtin) (hunit : unit.WellNamed)
    (hsuffixes : pipeline.SuffixesApart)
    (hplain : ∀ made ∈ pipeline.published unit, ∀ part ∈ made.2.relativeSegments,
      '_' ∉ part.toList) :
    ((pipeline.published unit).map (fileKey pipeline.settings.suffixes)).Nodup := by
  have hpublished := nodup_published h hunit.distinct
  rw [List.Nodup, List.pairwise_map] at hpublished ⊢
  refine hpublished.imp_of_mem fun {a b} ha hb hne hkey => hne ?_
  obtain ⟨hagenerator, haclass⟩ := mem_published h ha
  obtain ⟨hbgenerator, hbclass⟩ := mem_published h hb
  obtain ⟨hpackage, hname⟩ := Prod.mk.inj hkey
  by_cases hgenerators : a.1.name = b.1.name
  · have hsuffix : pipeline.settings.suffixes.ofGenerator a.1 =
        pipeline.settings.suffixes.ofGenerator b.1 := by
      rw [Suffixes.ofGenerator, Suffixes.ofGenerator, hgenerators]
    rw [hsuffix] at hname
    have hclass := ClassDeclaration.name_eq_of_generatedName (hunit.placed _ haclass)
      (hunit.placed _ hbclass) (hplain a ha) (hplain b hb) hpackage hname
    exact Prod.ext hgenerators hclass
  · -- Two suffixes at the end of one name: the shorter one is at the end of the other.
    have hlist := congrArg String.toList hname
    rw [ClassDeclaration.generatedName, ClassDeclaration.generatedName, String.toList_append,
      String.toList_append] at hlist
    have hends := List.suffix_or_suffix_of_suffix (hlist ▸ List.suffix_append _ _)
      (List.suffix_append _ (pipeline.settings.suffixes.ofGenerator b.1).toList)
    rcases hends with hend | hend
    · exact absurd hend (hsuffixes _ hagenerator _ hbgenerator hgenerators)
    · exact absurd hend (hsuffixes _ hbgenerator _ hagenerator (Ne.symm hgenerators))

theorem exists_of_mem_files (h : pipeline.generators.Sublist Generator.builtin)
    {file : GeneratedFile}
    (hfile : file ∈ (pipeline.outcomes unit).filterMap ClassOutcome.file?) :
    ∃ made ∈ pipeline.published unit,
      (file.package, file.fileName) = fileKey pipeline.settings.suffixes made := by
  have hkey := List.mem_map_of_mem (f := fun file : GeneratedFile => (file.package, file.fileName))
    hfile
  rw [map_key_files h] at hkey
  obtain ⟨made, hmade, heq⟩ := List.mem_map.1 hkey
  exact ⟨made, hmade, heq.symm⟩

theorem exists_of_mem_reference (h : pipeline.generators.Sublist Generator.builtin)
    {file : GeneratedFile} (hfile : file ∈ (pipeline.reference unit).files) :
    ∃ made ∈ pipeline.published unit,
      (file.package, file.fileName) = fileKey pipeline.settings.suffixes made := by
  rw [reference, (GeneratedFile.sortByName_perm _).mem_iff] at hfile
  exact exists_of_mem_files h hfile

end Pipeline

/-! ## Accepted settings -/

namespace Settings

variable {settings : Settings}

theorem problems_eq_nil (h : settings.validate = .ok ()) : settings.problems = [] := by
  rw [validate] at h
  split at h
  · next hempty => exact List.isEmpty_iff.1 hempty
  · cases h

theorem validate_of_problems_eq_nil (h : settings.problems = []) : settings.validate = .ok () := by
  rw [validate, h]
  rfl

theorem isExtension_of_validate (h : settings.validate = .ok ()) :
    isExtension settings.extension := by
  have hproblems := problems_eq_nil h
  rw [problems, List.append_eq_nil_iff] at hproblems
  by_contra hextension
  rw [if_neg hextension] at hproblems
  cases hproblems.2

theorem isIdentifier_of_suffixProblem {field suffix : String}
    (h : suffixProblem field suffix = []) : Text.isIdentifier suffix := by
  rw [suffixProblem] at h
  split at h
  · assumption
  · cases h

theorem isIdentifier_ofGenerator (h : settings.validate = .ok ()) (generator : Generator) :
    Text.isIdentifier (settings.suffixes.ofGenerator generator) := by
  have hproblems := problems_eq_nil h
  simp only [problems, Suffixes.problems, List.append_eq_nil_iff] at hproblems
  obtain ⟨⟨⟨⟨⟨⟨⟨hbindings, hprovisions⟩, hautoWire⟩, -⟩, -⟩, -⟩, -⟩, -⟩ := hproblems
  rw [Suffixes.ofGenerator]
  split
  · exact isIdentifier_of_suffixProblem hbindings
  · split
    · exact isIdentifier_of_suffixProblem hprovisions
    · exact isIdentifier_of_suffixProblem hautoWire

theorem hasDistinctMarkers_of_validate (h : settings.validate = .ok ()) :
    settings.schema.hasDistinctMarkers := by
  have hproblems := problems_eq_nil h
  simp only [problems, Schema.problems, List.append_eq_nil_iff] at hproblems
  obtain ⟨⟨⟨-, -, hmarkers⟩, -⟩, -⟩ := hproblems
  by_contra hshared
  rw [if_neg hshared] at hmarkers
  cases hmarkers

/-- All defaults are as they should be. -/
theorem validate_default : ({} : Settings).validate = .ok () := by decide +kernel

end Settings

/-! ## Paths of a report -/

namespace Pipeline

variable {pipeline : Pipeline} {unit : CompilationUnit}

theorem isNamed_of_mem (h : pipeline.generators.Sublist Generator.builtin)
    (hsettings : pipeline.settings.validate = .ok ()) (hunit : unit.WellNamed)
    {file : GeneratedFile} (hfile : file ∈ (pipeline.reference unit).files) : file.IsNamed := by
  obtain ⟨made, hmade, hkey⟩ := exists_of_mem_reference h hfile
  obtain ⟨hpackage, hname⟩ := Prod.mk.inj hkey
  have hplaced := hunit.placed made.2 (mem_published h hmade).2
  constructor
  · rw [hpackage]
    exact hplaced.isPackage
  · rw [hname]
    exact ClassDeclaration.isIdentifier_generatedName hplaced.name
      (Settings.isIdentifier_ofGenerator hsettings made.1)

/-- The paths of the files of a report are distinct if and only if their names are. -/
theorem nodup_paths_iff (h : pipeline.generators.Sublist Generator.builtin)
    (hsettings : pipeline.settings.validate = .ok ()) (hunit : unit.WellNamed) :
    ((pipeline.reference unit).files.map (·.relativePath pipeline.settings.extension)).Nodup ↔
      ((pipeline.published unit).map (fileKey pipeline.settings.suffixes)).Nodup := by
  have hextension := Settings.isExtension_of_validate hsettings
  have hfiles : (pipeline.reference unit).files.Perm
      ((pipeline.outcomes unit).filterMap ClassOutcome.file?) := GeneratedFile.sortByName_perm _
  rw [← map_key_files h, ← (hfiles.map _).nodup_iff, List.Nodup, List.Nodup, List.pairwise_map,
    List.pairwise_map]
  refine List.Pairwise.iff_of_mem fun {a b} ha hb => not_congr ?_
  rw [GeneratedFile.relativePath_inj (isNamed_of_mem h hsettings hunit ha)
    (isNamed_of_mem h hsettings hunit hb) hextension, Prod.mk.injEq]

/-- Files with paths of their own can all be read after all of them were written. -/
theorem read_of_nodup (h : pipeline.generators.Sublist Generator.builtin)
    (hsettings : pipeline.settings.validate = .ok ()) (hunit : unit.WellNamed)
    (hpaths : ((pipeline.reference unit).files.map
      (·.relativePath pipeline.settings.extension)).Nodup)
    {workingFolder root : String} {tree after : FileTree} {written : Report}
    (hrun : ((pipeline.reference unit).writeTo
      (Report.treeWriter workingFolder root pipeline.settings.extension)).run tree =
        (written, after))
    (hwritten : written.written.length = written.files.length) :
    ∀ file ∈ written.files, after.textAt? workingFolder
      (Path.push root (file.relativePath pipeline.settings.extension)) = some file.content := by
  have hextension := Settings.isExtension_of_validate hsettings
  have hplaces : ((pipeline.reference unit).files.map
      (Report.place workingFolder root pipeline.settings.extension)).Nodup := by
    rw [List.Nodup, List.pairwise_map] at hpaths ⊢
    refine hpaths.imp_of_mem fun {a b} ha hb hne heq => hne ?_
    exact (Report.place_inj (isNamed_of_mem h hsettings hunit ha)
      (isNamed_of_mem h hsettings hunit hb) hextension).1 heq
  obtain ⟨hfiles, -⟩ := Report.run_foldlM_le hrun
  rw [hfiles] at hwritten ⊢
  have hnone : (pipeline.reference unit).written.length = 0 := rfl
  exact (Report.writeFiles_kept hrun (by omega) hplaces).1

end Pipeline

/-- **No file is lost if and only if the generated names are distinct.** The paths of a report are
distinct exactly then; they are if no suffix ends in another one and no class has an underscore in
its name below its package; and if they are, every file can be read after all files were written. -/
theorem paths_distinct_iff_keys_distinct (settings : Settings) (hierarchy : Option Hierarchy)
    (unit : CompilationUnit) (hsettings : settings.validate = .ok ()) (hunit : unit.WellNamed)
    (report : Report)
    (hreport : (({ hierarchy := hierarchy } : Setup).pipeline settings).run? unit = some report) :
    let pipeline := ({ hierarchy := hierarchy } : Setup).pipeline settings
    let paths := report.files.map (·.relativePath settings.extension)
    (paths.Nodup ↔ ((pipeline.published unit).map (fileKey settings.suffixes)).Nodup) ∧
    (pipeline.SuffixesApart → (∀ made ∈ pipeline.published unit,
      ∀ part ∈ made.2.relativeSegments, '_' ∉ part.toList) → paths.Nodup) ∧
    (paths.Nodup → ∀ workingFolder root tree, ∃ written after,
      (pipeline.runAndWrite unit (folderWriter (FileTree.fileSystem workingFolder) root
        settings.extension)).run tree = (some written, after) ∧
      written.files = report.files ∧
      (written.written.length = written.files.length → ∀ file ∈ written.files,
        after.textAt? workingFolder (Path.push root (file.relativePath settings.extension)) =
          some file.content)) := by
  intro pipeline paths
  have hgenerators : pipeline.generators.Sublist Generator.builtin :=
    Setup.generators_sublist_builtin rfl settings
  have hreference : report = pipeline.reference unit := Setup.eq_reference rfl hreport
  have hiff : paths.Nodup ↔ _ := hreference ▸ pipeline.nodup_paths_iff hgenerators hsettings hunit
  refine ⟨hiff, fun hsuffixes hplain => ?_, fun hpaths workingFolder root tree => ?_⟩
  · exact hiff.2 (Pipeline.nodup_keys hgenerators hunit hsuffixes hplain)
  · generalize hrun : (report.writeTo (Report.treeWriter workingFolder root
      settings.extension)).run tree = made
    refine ⟨made.1, made.2, ?_, (Report.run_foldlM_le hrun).1, fun hwritten => ?_⟩
    · rw [Pipeline.runAndWrite, hreport]
      dsimp only
      rw [StateT.run_bind, hrun]
      rfl
    · subst hreference
      exact pipeline.read_of_nodup hgenerators hsettings hunit hpaths hrun hwritten

/-! ## A class and a nested class -/

/-- A class of the package `p` whose members are injected. -/
def injectedClass (relative : String) : ClassDeclaration :=
  (ClassDeclaration.ofName "p" relative).annotate
    ⟨({} : Schema).autoWire, [⟨none, .classLiteral ⟨"p.Scope"⟩⟩], []⟩

/-- Such a class beside another one that has such a class nested in it. -/
def injectedUnit (relative : String) : CompilationUnit :=
  (CompilationUnit.empty.withClass (injectedClass relative)).withClass
    ((ClassDeclaration.ofName "p" "B").withNested (injectedClass "B.C"))

theorem wellNamed_injectedUnit {relative : String}
    (hdistinct : ((injectedUnit relative).allClasses.map (·.name)).Nodup)
    (hplaced : ∀ c ∈ (injectedUnit relative).allClasses, c.name.isValid ∧ c.package = "p" ∧
      c.name.text = "p" ++ "." ++ String.ofList (c.name.text.toList.drop 2)) :
    (injectedUnit relative).WellNamed where
  distinct := hdistinct
  placed c hc := by
    obtain ⟨hvalid, hpackage, htext⟩ := hplaced c hc
    refine ⟨hvalid, .inr ⟨?_, String.ofList (c.name.text.toList.drop 2), ?_⟩⟩
    · rw [hpackage]
      decide
    · rw [hpackage]
      exact htext

/-- A class and a nested class have files of their own where the first name has no underscore. -/
theorem paths_distinct_nested :
    let pipeline := ({} : Setup).pipeline {}
    let report := pipeline.reference (injectedUnit "BC")
    ({} : Settings).validate = .ok () ∧ (injectedUnit "BC").WellNamed ∧
      pipeline.run? (injectedUnit "BC") = some report ∧ report.files.length = 2 ∧
      (report.files.map (·.relativePath "kt")).Nodup := by
  intro pipeline report
  have hsettings : ({} : Settings).validate = .ok () := by decide
  have hunit : (injectedUnit "BC").WellNamed := wellNamed_injectedUnit (by decide) (by decide)
  have hreport : pipeline.run? (injectedUnit "BC") = some report :=
    Setup.run?_eq {} rfl (by decide) (by decide) _
  have hlength : report.files.length = 2 := by
    change (GeneratedFile.sortByName _).length = 2
    rw [(GeneratedFile.sortByName_perm _).length_eq]
    decide
  have hpaths := (paths_distinct_iff_keys_distinct {} none _ hsettings hunit report hreport).1
  exact ⟨hsettings, hunit, hreport, hlength, hpaths.2 (by decide)⟩

/-- **Two classes may share a path**: `p.B_C` and the class `C` nested in `p.B` are written to one
file, although settings and names are as they should be. -/
theorem nested_class_shares_path :
    let pipeline := ({} : Setup).pipeline {}
    ({} : Settings).validate = .ok () ∧ (injectedUnit "B_C").WellNamed ∧
      ∃ report, pipeline.run? (injectedUnit "B_C") = some report ∧
        ¬(report.files.map (·.relativePath "kt")).Nodup := by
  intro pipeline
  have hsettings : ({} : Settings).validate = .ok () := by decide
  have hunit : (injectedUnit "B_C").WellNamed := wellNamed_injectedUnit (by decide) (by decide)
  have hreport : pipeline.run? (injectedUnit "B_C") = some (pipeline.reference _) :=
    Setup.run?_eq {} rfl (by decide) (by decide) _
  refine ⟨hsettings, hunit, _, hreport, ?_⟩
  have hgenerators : pipeline.generators.Sublist Generator.builtin := List.Sublist.refl _
  exact mt (pipeline.nodup_paths_iff hgenerators hsettings hunit).1 (by decide)

end Wiring
