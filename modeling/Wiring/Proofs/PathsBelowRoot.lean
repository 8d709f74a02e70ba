import Wiring.Proofs.ContainedWrites
import Wiring.Proofs.FilesApart
import Wiring.Proofs.Lines

/-!
# Files below the root of the output

Packages and names of classes are cut at their dots before they go into a path, so no part of a path
leads back to the folder around. But a piece that begins with a slash replaces all that came before
it, and with it the root.

* `Path.LiesUnder`, `Path.liesUnder_push_iff`: paths below a root;
* `Path.LiesUnder.place`: what lies below a root is found below the folder of the root;
* `Path.dots_notMem_parts`: texts with one dot have no part that leads back;
* `ClassDeclaration.beginsAtRoot`: classes whose files replace the root;
* `FileSystem.noting`, `Pipeline.runAndWrite_noting`: the paths that are written to;
* **`liesUnder_target_iff`**: which generated files lie below the root.
-/

namespace Wiring

/-! ## Paths -/

namespace Path

variable {root path part : String} {names : List String}

theorem mem_of_mem_parts_push {name : String} (h : name ∈ parts (push path part)) :
    name ∈ parts path ∨ name ∈ parts part := by
  cases habsolute : isAbsolute part with
  | false => rwa [parts_push habsolute, List.mem_append] at h
  | true =>
    rw [push, if_pos habsolute] at h
    exact .inr h

theorem mem_of_mem_parts_foldl_push {name start : String}
    (h : name ∈ parts (names.foldl push start)) :
    name ∈ parts start ∨ ∃ piece ∈ names, name ∈ parts piece := by
  induction names generalizing start with
  | nil => exact .inl h
  | cons piece rest ih =>
    rcases ih h with hpushed | ⟨later, hlater, hmem⟩
    · exact (mem_of_mem_parts_push hpushed).imp_right fun hpiece =>
        ⟨piece, List.mem_cons_self, hpiece⟩
    · exact .inr ⟨later, List.mem_cons_of_mem _ hlater, hmem⟩

/-- The parts of a path are parts of the pieces that it is put together from. -/
theorem exists_of_mem_parts_ofParts {name : String} (h : name ∈ parts (ofParts names)) :
    ∃ piece ∈ names, name ∈ parts piece := by
  refine (mem_of_mem_parts_foldl_push h).resolve_left fun hempty => ?_
  rw [parts_empty] at hempty
  cases hempty

/-- A text with at most one dot has no part of two dots, however it is cut at slashes. -/
theorem dots_notMem_parts (h : path.toList.count '.' ≤ 1) : ".." ∉ parts path := by
  intro hmem
  obtain ⟨cs, hcs, hdots⟩ := List.mem_map.1 (List.mem_filter.1 hmem).1
  have hcount := (Text.sublist_of_mem_splitOn hcs).count_le '.'
  have htwo : cs.count '.' = 2 := by
    rw [← String.toList_ofList (l := cs), hdots]
    decide
  omega

/-! ## Paths below a root -/

/-- Whether a path is a root with further parts behind it, none of which leads back. -/
def LiesUnder (root path : String) : Prop :=
  isAbsolute path = isAbsolute root ∧ ∃ rest, parts path = parts root ++ rest ∧ ".." ∉ rest

/-- **A path that leads nowhere back lies below a root that it is added to**, unless it is absolute.
An absolute path replaces the root, and then it is below it only by chance. -/
theorem liesUnder_push_iff (h : ".." ∉ parts path) :
    LiesUnder root (push root path) ↔
      isAbsolute path = false ∨ isAbsolute root ∧ parts root <+: parts path := by
  cases habsolute : isAbsolute path with
  | false =>
    rw [LiesUnder, isAbsolute_push habsolute, parts_push habsolute]
    exact iff_of_true ⟨rfl, parts path, rfl, h⟩ (.inl rfl)
  | true =>
    rw [LiesUnder, push, if_pos habsolute, habsolute, eq_comm]
    constructor
    · rintro ⟨hroot, rest, hrest, -⟩
      exact .inr ⟨hroot, rest, hrest.symm⟩
    · rintro (hrelative | ⟨hroot, rest, hrest⟩)
      · cases hrelative
      · refine ⟨hroot, rest, hrest.symm, fun hmem => h ?_⟩
        rw [← hrest]
        exact List.mem_append_right _ hmem

/-- What lies below a root is found below the folder that the root leads to, from whatever folder
one starts. -/
theorem LiesUnder.place (h : LiesUnder root path) (workingFolder : String) :
    FileTree.place (push workingFolder root) <+: FileTree.place (push workingFolder path) := by
  obtain ⟨habsolute, rest, hrest, hdots⟩ := h
  have hparts : parts (push workingFolder path) = parts (push workingFolder root) ++ rest := by
    cases hroot : isAbsolute root with
    | false => rw [parts_push hroot, parts_push (habsolute.trans hroot), hrest, List.append_assoc]
    | true => rw [push, if_pos (habsolute.trans hroot), push, if_pos hroot, hrest]
  refine ⟨rest, ?_⟩
  rw [FileTree.place, FileTree.place, hparts, List.foldl_append, FileTree.foldl_next hdots]

end Path

/-! ## Paths of files -/

namespace ClassDeclaration

variable {c : ClassDeclaration} {suffix : String}

/-- Whether a segment of the package of a class or the first one below it begins with a slash. -/
def beginsAtRoot (c : ClassDeclaration) : Bool :=
  (Kotlin.packageSegments c.package ++ c.relativeSegments.take 1).any Path.isAbsolute

theorem dot_notMem_generatedName (c : ClassDeclaration) (hsuffix : Text.isIdentifier suffix) :
    '.' ∉ (c.generatedName suffix).toList := by
  have hsegments : ∀ part ∈ c.relativeSegments.map String.toList, ∀ d ∈ part, d ≠ '.' := by
    rw [relativeSegments, List.map_map]
    rintro part hpart d hd rfl
    obtain ⟨cs, hcs, rfl⟩ := List.mem_map.1 hpart
    exact Text.not_mem_of_mem_splitOn hcs (by simpa using hd)
  have hseparator : ∀ d ∈ nestedSeparator.toList, d ≠ '.' := by simp [nestedSeparator]
  rw [generatedName, String.toList_append, String.toList_intercalate, List.mem_append, not_or]
  refine ⟨fun hmem => ?_, Text.not_mem_of_isIdentifier hsuffix (by decide)⟩
  exact forall_mem_intercalate hseparator hsegments '.' hmem rfl

/-- A generated name begins with a slash if and only if the first segment below the package does. -/
theorem isAbsolute_generatedName (c : ClassDeclaration) (hsuffix : Text.isIdentifier suffix) :
    Path.isAbsolute (c.generatedName suffix) = (c.relativeSegments.take 1).any Path.isAbsolute := by
  obtain ⟨first, rest, hsegments⟩ := List.exists_cons_of_ne_nil c.relativeSegments_ne_nil
  have hfirst : (c.relativeSegments.take 1).any Path.isAbsolute = Path.isAbsolute first := by
    simp [hsegments]
  rw [hfirst, generatedName, hsegments]
  cases rest with
  | nil =>
    rw [String.intercalate_singleton]
    exact Path.isAbsolute_append_of_relative first
      (Path.not_isAbsolute_of_isPart (Path.isPart_of_isIdentifier hsuffix))
  | cons next rest =>
    have hseparator : nestedSeparator ≠ "" := by decide
    rw [String.intercalate_cons_cons, String.append_assoc, String.append_assoc]
    exact Path.isAbsolute_append_of_relative first (Path.isAbsolute_append hseparator _)

end ClassDeclaration

namespace GeneratedFile

variable {file : GeneratedFile} {extension : String}

theorem isAbsolute_relativePath (file : GeneratedFile) (extension : String) :
    Path.isAbsolute (file.relativePath extension) =
      ((Kotlin.packageSegments file.package).any Path.isAbsolute ||
        Path.isAbsolute file.fileName) := by
  have hdot : Path.isAbsolute ("." ++ extension) = false :=
    Path.isAbsolute_append (by decide : "." ≠ "") extension
  rw [relativePath, Path.isAbsolute_push_eq, Path.isAbsolute_ofParts, String.append_assoc,
    Path.isAbsolute_append_of_relative _ hdot]

/-- The path of a file whose name has no dot leads nowhere back, whatever its package is. -/
theorem dots_notMem_parts_relativePath (hname : '.' ∉ file.fileName.toList)
    (hextension : isExtension extension) : ".." ∉ Path.parts (file.relativePath extension) := by
  intro hmem
  rcases Path.mem_of_mem_parts_push hmem with hfolder | hlast
  · obtain ⟨piece, hpiece, hdots⟩ := Path.exists_of_mem_parts_ofParts hfolder
    have hnone := Text.not_mem_of_mem_segments (List.mem_filter.1 hpiece).1
    exact Path.dots_notMem_parts (by simp [List.count_eq_zero_of_not_mem hnone]) hdots
  · refine Path.dots_notMem_parts ?_ hlast
    rw [isExtension, Bool.and_eq_true, List.all_eq_true] at hextension
    have hnone : '.' ∉ extension.toList := fun hdot => absurd (hextension.2 '.' hdot) (by decide)
    simp [List.count_eq_zero_of_not_mem hname, List.count_eq_zero_of_not_mem hnone]

end GeneratedFile

/-! ## What is asked of a file system -/

section

variable {m : Type → Type} [Monad m]

/-- The operations on files, with a note of each path that is written to. -/
def FileSystem.noting (files : FileSystem m) : FileSystem (StateT (List String) m) where
  kind path := files.kind path
  read path := files.read path
  write path content := do
    modify (· ++ [path])
    files.write path content

variable [LawfulMonad m]

theorem folderWriter_noting (files : FileSystem m) (root extension : String)
    (file : GeneratedFile) (asked : List String) :
    ((folderWriter files.noting root extension).write file).run asked =
      (·, asked ++ [Report.target root extension file]) <$>
        (folderWriter files root extension).write file := by
  simp only [folderWriter, FileSystem.noting, bind_assoc, StateT.run_bind, StateT.run_modify,
    StateT.run_monadLift, monadLift_self, bind_pure_comp, bind_map_left, pure_bind, map_bind]
  refine bind_congr fun answer => ?_
  cases answer <;> simp [Report.target]

/-- **The paths that a run writes to** are those of the files of its report below the root, in their
order, whatever the file system answers. -/
theorem Pipeline.runAndWrite_noting {pipeline : Pipeline} {unit : CompilationUnit} {report : Report}
    (h : pipeline.run? unit = some report) (files : FileSystem m) (root extension : String) :
    (pipeline.runAndWrite unit (folderWriter files.noting root extension)).run [] =
      (·, report.files.map (Report.target root extension)) <$>
        pipeline.runAndWrite unit (folderWriter files root extension) := by
  rw [runAndWrite_eq _ h, runAndWrite_eq _ h, StateT.run_bind,
    Report.writeTo_of_notes rfl (folderWriter_noting files root extension), bind_map_left, map_bind]
  refine bind_congr fun final => ?_
  rw [StateT.run_pure, map_pure, List.nil_append]

end

/-! ## Generated files and the root -/

/-- A file is below the root unless the class that it is made of leads to the root of all files. -/
theorem GeneratedFile.liesUnder_target_of_key {settings : Settings}
    (hsettings : settings.validate = .ok ()) {file : GeneratedFile}
    {made : Generator × ClassDeclaration}
    (hkey : (file.package, file.fileName) = fileKey settings.suffixes made) (root : String) :
    Path.LiesUnder root (Report.target root settings.extension file) ↔
      made.2.beginsAtRoot = false ∨
        Path.isAbsolute root ∧
          Path.parts root <+: Path.parts (file.relativePath settings.extension) := by
  obtain ⟨hpackage, hname⟩ := Prod.mk.inj hkey
  have hsuffix := Settings.isIdentifier_ofGenerator hsettings made.1
  have hdot : '.' ∉ file.fileName.toList := hname ▸ made.2.dot_notMem_generatedName hsuffix
  have habsolute :
      Path.isAbsolute (file.relativePath settings.extension) = made.2.beginsAtRoot := by
    rw [isAbsolute_relativePath, hpackage, hname, made.2.isAbsolute_generatedName hsuffix,
      ClassDeclaration.beginsAtRoot, List.any_append]
  rw [Report.target, Path.liesUnder_push_iff
    (dots_notMem_parts_relativePath hdot (Settings.isExtension_of_validate hsettings)), habsolute]

/-- **Which files lie below the root of the output.** A run writes to the paths of the files of its
report, one after the other, whatever the file system answers. A path lies below the root, and then
the file is found below the folder of the root, unless a segment of the package or the first one
below it begins with a slash. Then the path is absolute, and lies below the root only if it says so
itself. -/
theorem liesUnder_target_iff (setup : Setup) (hsetup : setup.furtherGenerators = [])
    (settings : Settings) (hsettings : settings.validate = .ok ()) (unit : CompilationUnit)
    (report : Report) (hreport : (setup.pipeline settings).run? unit = some report)
    {m : Type → Type} [Monad m] [LawfulMonad m] (files : FileSystem m) (root : String) :
    ((setup.pipeline settings).runAndWrite unit
        (folderWriter files.noting root settings.extension)).run [] =
      (·, report.files.map (Report.target root settings.extension)) <$>
        (setup.pipeline settings).runAndWrite unit (folderWriter files root settings.extension) ∧
    ∀ file ∈ report.files, ∃ made ∈ (setup.pipeline settings).published unit,
      (file.package, file.fileName) = fileKey settings.suffixes made ∧
      (Path.LiesUnder root (Report.target root settings.extension file) ↔
        made.2.beginsAtRoot = false ∨
          Path.isAbsolute root ∧
            Path.parts root <+: Path.parts (file.relativePath settings.extension)) ∧
      (Path.LiesUnder root (Report.target root settings.extension file) → ∀ workingFolder,
        FileTree.place (Path.push workingFolder root) <+:
          Report.place workingFolder root settings.extension file) := by
  refine ⟨Pipeline.runAndWrite_noting hreport files root _, fun file hfile => ?_⟩
  rw [Setup.eq_reference hsetup hreport] at hfile
  obtain ⟨made, hmade, hkey⟩ := Pipeline.exists_of_mem_reference
    (Setup.generators_sublist_builtin hsetup settings) hfile
  exact ⟨made, hmade, hkey, GeneratedFile.liesUnder_target_of_key hsettings hkey root,
    fun hunder workingFolder => hunder.place workingFolder⟩

/-! ## Classes with slashes in their names -/

/-- A class whose members are injected, with any texts for its name and its package. -/
def injectedIn (package name : String) : ClassDeclaration :=
  { injectedClass "Login" with name := ⟨name⟩, package := package }

/-- The file of such a class. -/
def injectorFile (package name : String) : GeneratedFile :=
  (autoWireFile (injectedIn package name) ⟨"p.Scope"⟩ {}).toGenerated

/-- Two dots for a package lead nowhere, and a slash in the name of a class leads to a folder. -/
theorem liesUnder_target_menu :
    let pipeline := ({} : Setup).pipeline {}
    let unit := CompilationUnit.empty.withClass (injectedIn ".." "...Menu/Login")
    ({} : Settings).validate = .ok () ∧ ∃ report, pipeline.run? unit = some report ∧
      report.files = [injectorFile ".." "...Menu/Login"] ∧
      ∀ file ∈ report.files, file.relativePath "kt" = "Menu/LoginAICodeGen.kt" ∧
        Path.LiesUnder "../out" (Report.target "../out" "kt" file) := by
  intro pipeline unit
  have hreport : pipeline.run? unit = some (pipeline.reference unit) :=
    Setup.run?_eq {} rfl (by decide) (by decide) unit
  have hfiles : (pipeline.reference unit).files = [injectorFile ".." "...Menu/Login"] := by
    exact List.mergeSort_singleton _
  refine ⟨Settings.validate_default, _, hreport, hfiles, fun file hfile => ⟨?_, ?_⟩⟩
  · rw [hfiles, List.mem_singleton] at hfile
    rw [hfile]
    rfl
  · obtain ⟨-, hall⟩ := liesUnder_target_iff {} rfl {} Settings.validate_default unit _ hreport
      (FileTree.fileSystem "/home") "../out"
    obtain ⟨made, hmade, -, hiff, -⟩ := hall file hfile
    have hrelative : ∀ made ∈ pipeline.published unit, made.2.beginsAtRoot = false := by decide
    exact hiff.2 (.inl (hrelative made hmade))

/-- **A file may leave the root of the output**: a package that begins with a slash is taken for a
path of its own, and the file is written there. -/
theorem absolute_package_leaves_root :
    let pipeline := ({} : Setup).pipeline {}
    let unit := CompilationUnit.empty.withClass (injectedIn "/tmp/escaped" "/tmp/escaped.Login")
    ({} : Settings).validate = .ok () ∧ ∃ written after,
      (pipeline.runAndWrite unit (Report.treeWriter "/" "/out" "kt")).run .empty =
        (some written, after) ∧
      written.written = ["/tmp/escaped/LoginAICodeGen.kt"] ∧
      after.files.map (·.1) = [["tmp", "escaped", "LoginAICodeGen.kt"]] ∧
      ¬Path.LiesUnder "/out" "/tmp/escaped/LoginAICodeGen.kt" := by
  intro pipeline unit
  have hreport : pipeline.run? unit = some (pipeline.reference unit) :=
    Setup.run?_eq {} rfl (by decide) (by decide) unit
  let file := injectorFile "/tmp/escaped" "/tmp/escaped.Login"
  have hfiles : (pipeline.reference unit).files = [file] := by
    exact List.mergeSort_singleton _
  have htarget : Report.target "/out" "kt" file = "/tmp/escaped/LoginAICodeGen.kt" := by decide
  let after : FileTree :=
    ⟨[["tmp"], ["tmp", "escaped"]], [(["tmp", "escaped", "LoginAICodeGen.kt"], file.content)]⟩
  have hwrite : FileTree.empty.write "/" "/tmp/escaped/LoginAICodeGen.kt" file.content =
      (after, .ok ()) := by
    rfl
  have hrun := Report.run_write "/" "/out" "kt" file .empty
  rw [htarget, hwrite] at hrun
  let written := (pipeline.reference unit).withWrites (Report.treeWriter "/" "/out" "kt") [file]
    [.ok "/tmp/escaped/LoginAICodeGen.kt"]
  refine ⟨Settings.validate_default, written, after, ?_, rfl, rfl, ?_⟩
  · rw [Pipeline.runAndWrite_eq _ hreport, Report.writeTo_eq, hfiles, StateT.run_bind,
      StateT.run_map, List.mapM_cons, List.mapM_nil, StateT.run_bind, hrun]
    rfl
  · rintro ⟨-, rest, hrest, -⟩
    have hprefix : Path.parts "/out" <+: Path.parts "/tmp/escaped/LoginAICodeGen.kt" :=
      ⟨rest, hrest.symm⟩
    exact absurd hprefix (by decide)

end Wiring
