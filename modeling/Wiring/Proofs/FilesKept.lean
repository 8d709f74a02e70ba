import Wiring.Proofs.StoredFiles
import Wiring.Writer

/-!
# Writing the files of a report

All files of a report are written below one root folder, one after the other.

* `treeWriter`, `Report.target`, `Report.place`: the writer, and where a file goes;
* `Report.run_writeFile`: one file;
* **`Report.writeFiles_kept`**: files that go to places of their own keep their texts;
* `Report.place_inj`: files have one place if and only if they have one path.
-/

namespace Wiring.Report

variable {workingFolder root extension : String} {report report' : Report}
  {file : GeneratedFile} {files : List GeneratedFile} {tree tree' : FileTree}

/-- The writer that puts files below a root folder of a tree. -/
abbrev treeWriter (workingFolder root extension : String) : Writer (StateM FileTree) :=
  folderWriter (FileTree.fileSystem workingFolder) root extension

/-- The path of a file below a root folder. -/
def target (root extension : String) (file : GeneratedFile) : String :=
  Path.push root (file.relativePath extension)

/-- The names that the path of a file leads to from a working folder on. -/
def place (workingFolder root extension : String) (file : GeneratedFile) : List String :=
  FileTree.place (Path.push workingFolder (target root extension file))

theorem run_write (workingFolder root extension : String) (file : GeneratedFile)
    (tree : FileTree) :
    ((treeWriter workingFolder root extension).write file).run tree =
      match tree.write workingFolder (target root extension file) file.content with
      | (written, .ok ()) => (pure (.ok (target root extension file), written) : Id _)
      | (written, .error reason) =>
        pure (.error (.artifactWrite (target root extension file) reason), written) := by
  simp only [folderWriter, FileTree.fileSystem, StateT.run_bind, StateT.run_get, StateT.run_set,
    pure_bind, target]
  generalize tree.write workingFolder (Path.push root (file.relativePath extension))
    file.content = made
  obtain ⟨written, reason | _⟩ := made
  · rfl
  · rfl

/-- Writing a file adds at most one path to a report, and if it adds one the file was written. -/
theorem run_writeFile
    (h : (writeFile (treeWriter workingFolder root extension) report file).run tree =
      (report', tree')) :
    report'.files = report.files ∧ report'.written.length ≤ report.written.length + 1 ∧
      (report'.written.length = report.written.length + 1 →
        tree.write workingFolder (target root extension file) file.content = (tree', .ok ())) := by
  rw [writeFile, StateT.run_bind, run_write] at h
  generalize tree.write workingFolder (target root extension file) file.content = made at h ⊢
  obtain ⟨written, reason | _⟩ := made
  · cases h
    simp
  · cases h
    exact ⟨rfl, by simp, fun _ => rfl⟩

/-- The report and the tree after writing files one after the other. -/
theorem run_foldlM_cons
    (h : ((file :: files).foldlM (writeFile (treeWriter workingFolder root extension)) report).run
      tree = (report', tree')) :
    ∃ first between,
      (writeFile (treeWriter workingFolder root extension) report file).run tree =
        (first, between) ∧
      (files.foldlM (writeFile (treeWriter workingFolder root extension)) first).run between =
        (report', tree') := by
  rw [List.foldlM_cons, StateT.run_bind] at h
  generalize (writeFile (treeWriter workingFolder root extension) report file).run tree = made
    at h ⊢
  exact ⟨made.1, made.2, rfl, h⟩

theorem run_foldlM_le
    (h : (files.foldlM (writeFile (treeWriter workingFolder root extension)) report).run tree =
      (report', tree')) :
    report'.files = report.files ∧
      report'.written.length ≤ report.written.length + files.length := by
  induction files generalizing report tree with
  | nil =>
    cases h
    exact ⟨rfl, Nat.le_refl _⟩
  | cons file rest ih =>
    obtain ⟨first, between, hfirst, hrest⟩ := run_foldlM_cons h
    obtain ⟨hfiles, hwritten, -⟩ := run_writeFile hfirst
    obtain ⟨hfiles', hwritten'⟩ := ih hrest
    rw [List.length_cons]
    exact ⟨hfiles'.trans hfiles, by omega⟩

/-- Files with places of their own keep their texts while the others are written, if every one of
them is written. So does what was read before at any other place. -/
theorem writeFiles_kept
    (h : (files.foldlM (writeFile (treeWriter workingFolder root extension)) report).run tree =
      (report', tree'))
    (hwritten : report'.written.length = report.written.length + files.length)
    (hplaces : (files.map (place workingFolder root extension)).Nodup) :
    (∀ file ∈ files, tree'.textAt? workingFolder (target root extension file) =
      some file.content) ∧
    ∀ path text, FileTree.place (Path.push workingFolder path) ∉
        files.map (place workingFolder root extension) →
      tree.textAt? workingFolder path = some text →
        tree'.textAt? workingFolder path = some text := by
  induction files generalizing report tree with
  | nil =>
    cases h
    exact ⟨fun file hfile => absurd hfile List.not_mem_nil, fun path text _ hread => hread⟩
  | cons file rest ih =>
    obtain ⟨first, between, hfirst, hrest⟩ := run_foldlM_cons h
    obtain ⟨-, hone, hok⟩ := run_writeFile hfirst
    obtain ⟨-, hle⟩ := run_foldlM_le hrest
    rw [List.length_cons] at hwritten
    rw [List.map_cons, List.nodup_cons] at hplaces
    -- Of the paths that are counted, each file adds one, so the first file was written as well.
    have hwrite := hok (by omega)
    obtain ⟨hkept, hothers⟩ := ih hrest (by omega) hplaces.2
    refine ⟨fun other hother => ?_, fun path text hpath hread => ?_⟩
    · rcases List.mem_cons.1 hother with rfl | hother
      · exact hothers _ _ hplaces.1 (FileTree.textAt?_write hwrite)
      · exact hkept other hother
    · rw [List.map_cons, List.mem_cons, not_or] at hpath
      exact hothers path text hpath.2 (FileTree.textAt?_write_of_ne hwrite hpath.1 hread)

/-- Files have one place if and only if they have one path below the root. -/
theorem place_inj {file other : GeneratedFile} (hfile : file.IsNamed) (hother : other.IsNamed)
    (hextension : isExtension extension) :
    place workingFolder root extension file = place workingFolder root extension other ↔
      file.relativePath extension = other.relativePath extension := by
  have hplace : ∀ f : GeneratedFile, f.IsNamed → place workingFolder root extension f =
      FileTree.place (Path.push workingFolder root) ++ Path.parts (f.relativePath extension) := by
    intro f hf
    obtain ⟨hparts, hrelative⟩ := f.parts_relativePath hf hextension
    have hpart : ∀ part ∈ Path.parts (f.relativePath extension), Path.IsPart part := by
      rw [hparts, List.forall_mem_append, List.forall_mem_singleton]
      refine ⟨fun part hmem => ?_, GeneratedFile.isPart_of_isNamed hf hextension⟩
      exact Path.isPart_of_isIdentifier
        (Kotlin.isIdentifier_of_mem_packageSegments hf.package hmem)
    have hdots : ".." ∉ Path.parts (f.relativePath extension) :=
      fun hmem => (hpart _ hmem).ne_dots rfl
    rw [place, target, FileTree.place, Path.parts_push_push workingFolder root hrelative,
      List.foldl_append, FileTree.place, FileTree.foldl_next hdots]
  rw [hplace file hfile, hplace other hother, List.append_cancel_left_eq]
  constructor
  · intro h
    rw [GeneratedFile.relativePath_inj hfile hother hextension]
    exact GeneratedFile.parts_relativePath_inj hfile hother hextension h
  · exact congrArg Path.parts

end Wiring.Report
